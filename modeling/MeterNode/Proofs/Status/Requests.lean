import MeterNode.Proofs.Http.Framing
import MeterNode.Proofs.Text.Shown
import MeterNode.Status.Page

/-!
# Requests for the status page

`Asks` and `IsId` are the grammar of requests.  They are about the pieces of the first line between
blanks (`tokens`) and nothing else; that the page reads a request in this way is
`queryOf_eq_some_iff`.

`respond_grammar` says what comes of a request.  The answer is taken as a client reads it
(`Http.Carries`): by the code of its status, its body, and the length that is stated for the body.
The body is the document around a list of channels; `ShowsChannel` says what it shows of each.
-/

namespace MeterNode.Status

open MeterNode.Text

variable {indexEnabled : Bool} {request method target : String} {path id : List Char}
  {views : List ChannelView} {q : Query}

/-! ## The grammar of requests -/

/-- What stands between the blanks of the first line. -/
def tokens (request : String) : List (List Char) :=
  ((request.toList.takeWhile (· ≠ '\n')).splitOnP isAsciiBlank).filter (· ≠ [])

/-- A path is asked for, with or without a query behind it. -/
def Asks (request : String) (path : List Char) : Prop :=
  ∃ target version more, tokens request = "GET".toList :: target :: version :: more ∧
    "HTTP/1.".toList <+: version ∧ target.takeWhile (· ≠ '?') = '/' :: path

/-- An identifier has up to 36 letters, digits, hyphens and underscores, and at least one. -/
def IsId (path : List Char) : Prop :=
  1 ≤ path.length ∧ path.length ≤ 36 ∧ ∀ c ∈ path, 'A' ≤ c ∧ c ≤ 'Z' ∨ 'a' ≤ c ∧ c ≤ 'z' ∨
    '0' ≤ c ∧ c ≤ '9' ∨ c = '-' ∨ c = '_'

/-- A request asks for one path at most. -/
theorem Asks.eq {path' : List Char} (h : Asks request path) (h' : Asks request path') :
    path = path' := by
  obtain ⟨target, version, more, htokens, -, hpath⟩ := h
  obtain ⟨target', version', more', htokens', -, hpath'⟩ := h'
  rw [htokens] at htokens'
  cases htokens'
  rw [hpath] at hpath'
  exact (List.cons.inj hpath').2

theorem isIdChar_iff {c : Char} : isIdChar c ↔ 'A' ≤ c ∧ c ≤ 'Z' ∨ 'a' ≤ c ∧ c ≤ 'z' ∨
    '0' ≤ c ∧ c ≤ '9' ∨ c = '-' ∨ c = '_' := by
  have hletter : c.isAlphanum = (decide (c.val ≥ 'A'.val ∧ c.val ≤ 'Z'.val) ||
      decide (c.val ≥ 'a'.val) && decide (c.val ≤ 'z'.val) ||
      decide (c.val ≥ '0'.val) && decide (c.val ≤ '9'.val)) := rfl
  simp only [isIdChar, hletter, Bool.or_eq_true, Bool.and_eq_true, decide_eq_true_eq, or_assoc]
  exact Iff.rfl

theorem isId_iff : IsId path ↔ path ≠ [] ∧ path.length ≤ idMax ∧ path.all isIdChar = true := by
  rw [IsId, Nat.succ_le_iff, List.length_pos_iff, List.all_eq_true]
  exact and_congr_right fun _ => and_congr_right fun _ =>
    forall₂_congr fun _ _ => isIdChar_iff.symm

instance : Decidable (IsId path) := decidable_of_iff _ isId_iff.symm

theorem isVersion_iff {word : List Char} : Http.isVersion word ↔ "HTTP/1.".toList <+: word :=
  List.isPrefixOf_iff_prefix

theorem requestLine_eq_some_iff : Http.requestLine request = some (method, target) ↔
    ∃ version more, tokens request = method.toList :: target.toList :: version :: more ∧
      "HTTP/1.".toList <+: version := by
  have hwords : ((lines request.toList).head?.map words).getD [] = tokens request := by
    rw [words_head_lines, words_eq_splitOnP, tokens]
  rw [← hwords, Http.requestLine]
  generalize (lines request.toList).head?.map words = found
  match found with
  | none | some [] | some [_] | some [_, _] => simp
  | some (m :: t :: version :: more) =>
    have hrest : (∃ v r, m :: t :: version :: more = method.toList :: target.toList :: v :: r ∧
        "HTTP/1.".toList <+: v) ↔
        (m = method.toList ∧ t = target.toList) ∧ "HTTP/1.".toList <+: version := by
      constructor
      · rintro ⟨v, r, h, hversion⟩
        cases h
        exact ⟨⟨rfl, rfl⟩, hversion⟩
      · rintro ⟨⟨rfl, rfl⟩, hversion⟩
        exact ⟨version, more, rfl, hversion⟩
    rw [Option.getD_some, hrest, ← isVersion_iff]
    by_cases hversion : Http.isVersion version
    · simp [hversion, ← String.toList_inj]
    · simp [hversion]

/-! ## Queries -/

/-- The query of a request is that of the path it asks for. -/
theorem queryOf_eq_some_iff : queryOf indexEnabled request = some q ↔
    ∃ path, Asks request path ∧ queryOfPath indexEnabled path = some q := by
  constructor
  · intro h
    simp only [queryOf] at h
    split at h
    next method target hline =>
      split at h
      next hmethod =>
        obtain ⟨version, more, htokens, hversion⟩ := requestLine_eq_some_iff.1 hline
        rw [hmethod] at htokens
        split at h
        next path hpath =>
          rw [Http.targetPath, String.toList_ofList] at hpath
          exact ⟨path, ⟨_, version, more, htokens, hversion, hpath⟩, h⟩
        next => cases h
      next => cases h
    next => cases h
  · rintro ⟨path, ⟨target, version, more, htokens, hversion, hpath⟩, hq⟩
    have htarget : (String.ofList target).toList = target := String.toList_ofList
    have hline : Http.requestLine request = some ("GET", String.ofList target) :=
      requestLine_eq_some_iff.2 ⟨version, more, by rw [htokens, htarget], hversion⟩
    have hslash : (Http.targetPath (String.ofList target)).toList = '/' :: path := by
      rw [Http.targetPath, String.toList_ofList, htarget, hpath]
    simp only [queryOf, hline, if_true, hslash, hq]

theorem queryOfPath_of_isId (h : IsId path) :
    queryOfPath indexEnabled path = some (.channel (String.ofList path)) := by
  obtain ⟨hne, hid⟩ := isId_iff.1 h
  rw [queryOfPath, if_neg hne, if_pos hid]

theorem queryOfPath_eq_none (hid : ¬ IsId path) (hindex : ¬ (path = [] ∧ indexEnabled)) :
    queryOfPath indexEnabled path = none := by
  rw [queryOfPath]
  split
  next hnil => exact if_neg fun hon => hindex ⟨hnil, hon⟩
  next hne => exact if_neg fun hchars => hid (isId_iff.2 ⟨hne, hchars⟩)

/-! ## Answers -/

/-- The last sample of a channel, if it is known whole. -/
inductive ShowsLast (v : ChannelView) : String → Prop where
  | taken {ts : Nat} {value : Float} {text : String} : v.lastTs = some ts →
      v.lastValue = some value → ShowsValue 2 value text →
      ShowsLast v (" [ " ++ toString ts ++ ", " ++ text ++ " ] ")
  | none : v.lastTs = none ∨ v.lastValue = none → ShowsLast v ""

/-- A channel is shown by its identifier, the time of its last sample, its interval, its protocol
and its last sample. -/
def ShowsChannel (v : ChannelView) (text : String) : Prop :=
  ∃ last, ShowsLast v last ∧
    text = " \x7b \"uuid\": \"" ++ v.uuid ++ "\", \"last\": " ++ toString (v.lastTs.getD 0) ++
      ", \"interval\": " ++ toString v.intervalS ++ ", \"protocol\": \"" ++ v.protocol ++
      "\", \"tuples\": [" ++ last ++ "] \x7d"

/-- The text lists some channels in order, with commas between them, and no other text does. -/
def Lists (views : List ChannelView) (listed : String) : Prop :=
  ∀ text, Listed ShowsChannel views text ↔ text = listed

theorem showsLast_iff {v : ChannelView} {text : String} :
    ShowsLast v text ↔ text = lastText v := by
  constructor
  · intro h
    cases h with
    | taken hts hvalue htext => rw [lastText, hts, hvalue, showsValue_iff.1 htext]
    | none hnone => rcases hnone with hnone | hnone <;> simp [lastText, hnone]
  · rintro rfl
    unfold lastText
    split
    next ts value hts hvalue => exact .taken hts hvalue (fixed_shows 2 value)
    next hnone =>
      refine .none ?_
      cases hts : v.lastTs with
      | none => exact .inl rfl
      | some ts =>
        cases hvalue : v.lastValue with
        | none => exact .inr rfl
        | some value => exact absurd hvalue (hnone ts value hts)

theorem showsChannel_iff {v : ChannelView} {text : String} :
    ShowsChannel v text ↔ text = channelText v := by
  simp only [ShowsChannel, showsLast_iff, exists_eq_left]
  exact Iff.rfl

theorem lists_intercalate (views : List ChannelView) :
    Lists views (",".intercalate (views.map channelText)) :=
  fun _ => listed_iff fun _ _ => showsChannel_iff

/-- The document around a list. -/
def page (listed : String) : String :=
  "\x7b \"version\": \"" ++ version ++ "\", \"generator\": \"" ++ generator ++
    "\", \"data\": [" ++ listed ++ " ]\x7d"

/-- An answer lists the channels that are selected. -/
theorem answer_lists : ∃ listed, Lists (views.filter q.selects) listed ∧
    Http.Carries (answer q views) (if (views.filter q.selects).isEmpty then 404 else 200)
      (page listed) := by
  refine ⟨_, lists_intercalate _, ?_⟩
  rw [answer]
  cases views.filter q.selects with
  | nil =>
    have hcode : ∀ c ∈ ['4', '0', '4'], c.isDigit = true := List.all_eq_true.1 rfl
    exact Http.response_carries rfl hcode rfl (by decide) (by decide)
  | cons v rest =>
    have hcode : ∀ c ∈ ['2', '0', '0'], c.isDigit = true := List.all_eq_true.1 rfl
    have hstatus : statusFor (v :: rest).length = "200 OK" := if_pos (Nat.succ_pos _)
    rw [hstatus]
    exact Http.response_carries rfl hcode rfl (by decide) (by decide)

theorem badRequest_carries : Http.Carries badRequest 400 "" :=
  have hcode : ∀ c ∈ ['4', '0', '0'], c.isDigit = true := List.all_eq_true.1 rfl
  Http.response_carries rfl hcode rfl (by decide) (by decide)

theorem selects_channel :
    (Query.channel (String.ofList id)).selects = fun v : ChannelView => v.uuid.toList = id := by
  funext v
  rw [Query.selects, beq_eq_decide, decide_eq_decide, ← String.toList_inj, String.toList_ofList]

theorem selects_all : views.filter Query.all.selects = views := List.filter_true views

theorem respond_of_query (h : queryOf indexEnabled request = some q) :
    respond indexEnabled views request = answer q views := by
  rw [respond, h]

theorem respond_of_id (hasks : Asks request id) (hid : IsId id) :
    respond indexEnabled views request = answer (.channel (String.ofList id)) views :=
  respond_of_query (queryOf_eq_some_iff.2 ⟨id, hasks, queryOfPath_of_isId hid⟩)

theorem queryOf_eq_none (h : ∀ id, Asks request id → ¬ IsId id ∧ ¬ (id = [] ∧ indexEnabled)) :
    queryOf indexEnabled request = none := by
  rw [Option.eq_none_iff_forall_ne_some]
  intro q hq
  obtain ⟨path, hasks, hpath⟩ := queryOf_eq_some_iff.1 hq
  obtain ⟨hid, hindex⟩ := h path hasks
  rw [queryOfPath_eq_none hid hindex] at hpath
  cases hpath

theorem respond_carries :
    ∃ status body, Http.Carries (respond indexEnabled views request) status body := by
  rw [respond]
  split
  next => exact ⟨400, "", badRequest_carries⟩
  next q _ =>
    obtain ⟨listed, -, hcarries⟩ := @answer_lists views q
    exact ⟨_, _, hcarries⟩

/-- Every request is answered by its grammar: a path that is an identifier with the channels of that
identifier, the empty path with all channels, if that is allowed, and everything else with an error
and an empty body.  Channels of another identifier do not matter, and every answer states the length
of its body. -/
theorem respond_grammar (indexEnabled : Bool) (views : List ChannelView) (request : String) :
    (∀ id, Asks request id → IsId id →
      ∃ listed, Lists (views.filter (·.uuid.toList = id)) listed ∧
        Http.Carries (respond indexEnabled views request)
          (if (views.filter (·.uuid.toList = id)).isEmpty then 404 else 200) (page listed)) ∧
    (Asks request [] → indexEnabled = true →
      ∃ listed, Lists views listed ∧
        Http.Carries (respond indexEnabled views request) (if views.isEmpty then 404 else 200)
          (page listed)) ∧
    ((∀ id, Asks request id → ¬ IsId id ∧ ¬ (id = [] ∧ indexEnabled = true)) →
      Http.Carries (respond indexEnabled views request) 400 "") ∧
    (∃ status body, Http.Carries (respond indexEnabled views request) status body) ∧
    ∀ id views' indexEnabled', Asks request id → IsId id →
      views'.filter (·.uuid.toList = id) = views.filter (·.uuid.toList = id) →
      respond indexEnabled' views' request = respond indexEnabled views request := by
  refine ⟨fun id hasks hid => ?_, fun hasks hindex => ?_, fun hother => ?_, respond_carries,
    fun id views' indexEnabled' hasks hid hsame => ?_⟩
  · rw [respond_of_id hasks hid, ← selects_channel]
    exact answer_lists
  · have hquery : queryOf indexEnabled request = some .all :=
      queryOf_eq_some_iff.2 ⟨[], hasks, by simp [queryOfPath, hindex]⟩
    obtain ⟨listed, hlists, hcarries⟩ := @answer_lists views .all
    rw [selects_all] at hlists hcarries
    rw [respond_of_query hquery]
    exact ⟨listed, hlists, hcarries⟩
  · rw [respond, queryOf_eq_none hother]
    exact badRequest_carries
  · rw [← selects_channel] at hsame
    rw [respond_of_id hasks hid, respond_of_id hasks hid, answer, answer, hsame]

/-- Three channels, two of which have one identifier. -/
def threeViews : List ChannelView :=
  [⟨"ab-1", none, none, 60, "http"⟩, ⟨"cd_2", none, none, 60, "http"⟩,
    ⟨"ab-1", some 7, some (-1.125), 5, "http"⟩]

theorem respond_grammar_of_three :
    (∃ listed, Lists [⟨"ab-1", none, none, 60, "http"⟩, ⟨"ab-1", some 7, some (-1.125), 5, "http"⟩]
        listed ∧
      listed =
        " \x7b \"uuid\": \"ab-1\", \"last\": 0, \"interval\": 60, \"protocol\": \"http\", " ++
        "\"tuples\": [] \x7d, \x7b \"uuid\": \"ab-1\", \"last\": 7, \"interval\": 5, " ++
        "\"protocol\": \"http\", \"tuples\": [ [ 7, -1.12 ] ] \x7d" ∧
      Http.Carries (respond false threeViews "GET /ab-1?last=1 HTTP/1.1\r\nHost: node\r\n\r\n") 200
        (page listed)) ∧
    Http.Carries (respond false threeViews "GET / HTTP/1.1\r\n\r\n") 400 "" := by
  have hasks : Asks "GET /ab-1?last=1 HTTP/1.1\r\nHost: node\r\n\r\n" "ab-1".toList :=
    ⟨_, _, [], rfl, ⟨_, rfl⟩, rfl⟩
  have hid : IsId "ab-1".toList := by decide
  have hroot : Asks "GET / HTTP/1.1\r\n\r\n" [] := ⟨_, _, [], rfl, ⟨_, rfl⟩, rfl⟩
  constructor
  · obtain ⟨listed, hlists, hcarries⟩ := (respond_grammar false threeViews _).1 _ hasks hid
    refine ⟨listed, hlists, ?_, hcarries⟩
    rw [← (hlists _).1 ((lists_intercalate _ _).2 rfl)]
    decide +kernel
  · refine (respond_grammar false threeViews _).2.2.1 fun id hasks => ?_
    obtain rfl := hasks.eq hroot
    exact ⟨by decide, by decide⟩

end MeterNode.Status
