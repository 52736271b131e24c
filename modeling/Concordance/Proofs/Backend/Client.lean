import Concordance.Backend.Client
import Concordance.Proofs.Binary64.Text

/-! A search is decided by one of its attempts: the first response that does not turn the request
away, or else the last attempt that is allowed. Whatever came before is repeated after a pause, and
leaves no trace in the reply. -/

namespace Concordance

namespace Json

/-- The characters that data starts with inside messages, apart from digits. -/
def literalStarts : List Char := ['N', 'T', 'F', 'n', 'i', '-', '[', '\x7b']

theorem head_literal {v : Json} (other : ∀ s, v ≠ .str s) :
    ∀ c ∈ (literal v).head?, c.isDigit ∨ c ∈ literalStarts := by
  have negative : '-' ∈ literalStarts := by decide
  intro c head
  cases v with
  | null | arr _ | obj _ =>
    cases head
    exact .inr (by decide)
  | str s => exact absurd rfl (other s)
  | bool b => cases b <;> (cases head; exact .inr (by decide))
  | int i =>
    cases i with
    | ofNat n => exact .inl (Numeral.isDigit_of_mem_decimal (List.mem_of_mem_head? head))
    | negSucc n =>
      cases head
      exact .inr negative
  | float x =>
    cases x with
    | nan =>
      cases head
      exact .inr (by decide)
    | infinite s => cases s <;> (cases head; exact .inr (by decide))
    | finite s place =>
      cases s with
      | true =>
        cases head
        exact .inr negative
      | false =>
        by_cases zero : place.val = 0
        · rw [literal, Binary64.render, Binary64.magnitudeText, if_pos zero] at head
          cases head
          exact .inl rfl
        · exact .inl ((Binary64.isShown_magnitudeText zero place.isLt).first c head)

end Json

namespace Backend

theorem Error.shown_eq_busyCode {v : Json} : v.shown = busyCode ↔ v = .str busyCode := by
  constructor
  · intro same
    by_cases text : ∃ s, v = .str s
    · obtain ⟨s, rfl⟩ := text
      exact congrArg Json.str same
    · have other : ∀ s, v ≠ .str s := fun s eq => text ⟨s, eq⟩
      have literal : v.literal = busyCode.toList := by
        rw [← same, Json.shown.eq_def]
        split
        · exact absurd rfl (other _)
        · exact String.toList_ofList.symm
      have start := Json.head_literal other 'S' (by rw [literal]; rfl)
      exact absurd start (by decide)
  · rintro rfl
    rfl

namespace Client

/-! ### Attempts -/

/-- A response, unless it turns the request away. -/
def isFinal : Attempt → Bool
  | .failed _ => false
  | .answered status _ => status != tooManyRequests

/-- How many attempts are made: up to the first that is final, and no more than are allowed. -/
def attemptsMade (attempts : List Attempt) : Nat := min (attempts.findIdx isFinal + 1) maxAttempts

def outcome (url : String) : Attempt → Except Error (Int × String)
  | .failed reason => .error (unreachable url reason)
  | .answered status body => .ok (status, body)

variable {call : Call} {attempts : List Attempt}

theorem exchange_final {left : Nat} (pause : Nat) {a : Attempt} (rest : List Attempt)
    (decides : isFinal a ∨ left = 0) :
    exchange call (left + 1) pause (a :: rest) = ⟨outcome call.url a, [call], []⟩ := by
  cases a with
  | failed reason =>
    have last : left = 0 := decides.resolve_left Bool.false_ne_true
    rw [exchange, if_pos last]
    rfl
  | answered status body =>
    rw [exchange, if_neg]
    · rfl
    · rintro ⟨turnedAway, more⟩
      have final := decides.resolve_right more
      exact bne_iff_ne.mp final turnedAway

theorem exchange_again {left : Nat} (pause : Nat) {a : Attempt} (rest : List Attempt)
    (repeated : isFinal a = false) (more : left ≠ 0) :
    exchange call (left + 1) pause (a :: rest) =
      exchange.again call (exchange call left (2 * pause) rest) pause := by
  cases a with
  | failed reason => rw [exchange, if_neg more]
  | answered status body =>
    have turnedAway : status = tooManyRequests := by simpa [isFinal] using repeated
    rw [exchange, if_pos ⟨turnedAway, more⟩]

def pausesFrom (pause : Nat) (made : Nat) : List Nat := (List.range (made - 1)).map (pause * 2 ^ ·)

theorem pausesFrom_succ (pause : Nat) {made : Nat} (some_made : 0 < made) :
    pausesFrom pause (made + 1) = pause :: pausesFrom (2 * pause) made := by
  obtain ⟨n, rfl⟩ := Nat.exists_eq_add_one_of_ne_zero (Nat.ne_of_gt some_made)
  simp only [pausesFrom, Nat.add_sub_cancel, List.range_succ_eq_map, List.map_cons, List.map_map,
    pow_zero, mul_one, List.cons.injEq, true_and]
  refine List.map_congr_left fun i _ => ?_
  rw [Function.comp_apply, pow_succ]
  ring

/-- The place of the attempt that decides, if so many more are allowed after the first. -/
def deciding (more : Nat) (attempts : List Attempt) : Nat := min (attempts.findIdx isFinal) more

theorem attemptsMade_eq (attempts : List Attempt) :
    attemptsMade attempts = deciding (maxAttempts - 1) attempts + 1 :=
  Nat.succ_min_succ _ _

theorem deciding_final {a : Attempt} (more : Nat) (rest : List Attempt) (final : isFinal a = true) :
    deciding more (a :: rest) = 0 := by
  rw [deciding, List.findIdx_cons, final, cond_true, Nat.zero_min]

theorem deciding_again {a : Attempt} (more : Nat) (rest : List Attempt)
    (repeated : isFinal a = false) : deciding (more + 1) (a :: rest) = deciding more rest + 1 := by
  rw [deciding, List.findIdx_cons, repeated, cond_false, Nat.succ_min_succ]
  rfl

theorem exchange_eq (call : Call) (attempts : List Attempt) (more pause : Nat)
    (enough : more < attempts.length) : ∃ last, attempts[deciding more attempts]? = some last ∧
      exchange call (more + 1) pause attempts =
        ⟨outcome call.url last, List.replicate (deciding more attempts + 1) call,
          pausesFrom pause (deciding more attempts + 1)⟩ := by
  induction more generalizing pause attempts with
  | zero =>
    obtain ⟨a, rest, rfl⟩ := List.exists_cons_of_ne_nil (List.ne_nil_of_length_pos enough)
    rw [deciding, Nat.min_zero]
    exact ⟨a, rfl, exchange_final pause rest (.inr rfl)⟩
  | succ more ih =>
    have some_attempt := List.ne_nil_of_length_pos (Nat.zero_lt_of_lt enough)
    obtain ⟨a, rest, rfl⟩ := List.exists_cons_of_ne_nil some_attempt
    cases final : isFinal a with
    | true =>
      rw [deciding_final _ rest final]
      exact ⟨a, rfl, exchange_final pause rest (.inl final)⟩
    | false =>
      obtain ⟨last, place, made⟩ := ih rest (2 * pause) (Nat.lt_of_succ_lt_succ enough)
      rw [deciding_again more rest final]
      refine ⟨last, place, ?_⟩
      rw [exchange_again pause rest final (Nat.succ_ne_zero more), made, exchange.again,
        pausesFrom_succ pause (Nat.succ_pos _)]
      rfl

/-! ### Responses -/

/-- The error object of a response that is a JSON object. -/
def Reports (read? : String → Option Json) (body : String) (e : Json) : Prop :=
  ∃ members fields, read? body = some (.obj members) ∧
    (Json.obj members).get? "error" = some e ∧ e = .obj fields

/-- What a response makes of a search, whatever attempts there were before it. -/
structure Settles (read? : String → Option Json) (url : String) (status : Int) (body : String)
    (reply : Reply) : Prop where
  busy : (∃ message, reply = .error (.busy message)) ↔
    ∃ e, Reports read? body e ∧ e.get? "code" = some (.str Error.busyCode)
  reported : ∀ e, Reports read? body e → e.get? "code" ≠ some (.str Error.busyCode) →
    reply = .error (.failed (((e.get? "code").map Json.shown).getD Error.serviceCode)
      (((e.get? "message").map Json.shown).getD ""))
  unsuccessful : (∀ e, ¬Reports read? body e) → 400 ≤ status → status < 600 →
    reply = .error (.failed Error.serviceCode s!"HTTP {status} from {url}")
  shapeless : (∀ e, ¬Reports read? body e) → ¬(400 ≤ status ∧ status < 600) →
    (∀ members, read? body ≠ some (.obj members)) →
    reply = .error (.failed Error.serviceCode s!"Response from {url} is not a JSON object")
  returned : (∀ e, ¬Reports read? body e) → ¬(400 ≤ status ∧ status < 600) →
    ∀ members, read? body = some (.obj members) → reply = .ok (.obj members)

variable {read? : String → Option Json} {body : String} {e : Json}

theorem reports_unique {e' : Json} (h : Reports read? body e) (h' : Reports read? body e') :
    e = e' := by
  obtain ⟨members, fields, data, error, -⟩ := h
  obtain ⟨members', fields', data', error', -⟩ := h'
  cases data.symm.trans data'
  exact Option.some.inj (error.symm.trans error')

def codeOf (e : Json) : String := ((e.get? "code").map Json.shown).getD Error.serviceCode

def messageOf (e : Json) : String := ((e.get? "message").map Json.shown).getD ""

theorem codeOf_eq_busyCode :
    codeOf e = Error.busyCode ↔ e.get? "code" = some (.str Error.busyCode) := by
  rw [codeOf]
  cases e.get? "code" with
  | none => exact iff_of_false (by decide) nofun
  | some v => exact Error.shown_eq_busyCode.trans (Option.some_inj.symm)

theorem reported?_of_reports (h : Reports read? body e) : (read? body).bind reported? =
    some (if codeOf e = Error.busyCode then
        .busy (if (messageOf e).isEmpty then "Server is too busy" else messageOf e)
      else .failed (codeOf e) (messageOf e)) := by
  obtain ⟨members, fields, data, error, rfl⟩ := h
  rw [data, Option.bind_some, reported?, error]
  rfl

theorem reported?_of_silent (silent : ∀ e, ¬Reports read? body e) :
    (read? body).bind reported? = none := by
  cases data : read? body with
  | none => rfl
  | some j =>
    rw [Option.bind_some, reported?]
    split
    · next fields error =>
      obtain ⟨members, rfl⟩ : ∃ members, j = .obj members := by
        cases j with
        | obj members => exact ⟨members, rfl⟩
        | _ => cases error
      exact absurd ⟨members, fields, data, error, rfl⟩ (silent (.obj fields))
    · rfl

theorem isFailure_iff {status : Int} : isFailure status = true ↔ 400 ≤ status ∧ status < 600 := by
  simp [isFailure]

theorem interpret_reports (url : String) (status : Int) (reports : Reports read? body e) :
    interpret read? url status body = .error (if codeOf e = Error.busyCode then
        .busy (if (messageOf e).isEmpty then "Server is too busy" else messageOf e)
      else .failed (codeOf e) (messageOf e)) := by
  rw [interpret]
  simp only [reported?_of_reports reports]

section Silent

variable {url : String} {status : Int} (silent : ∀ e, ¬Reports read? body e)

include silent

theorem interpret_failure (failure : isFailure status = true) : interpret read? url status body =
    .error (.failed Error.serviceCode s!"HTTP {status} from {url}") := by
  simp only [interpret, reported?_of_silent silent, if_pos failure]

theorem interpret_object (success : ¬isFailure status = true) {members : List (String × Json)}
    (data : read? body = some (.obj members)) :
    interpret read? url status body = .ok (.obj members) := by
  have unreported := reported?_of_silent silent
  rw [data] at unreported
  simp only [interpret, data, unreported, if_neg success]

theorem interpret_shapeless (success : ¬isFailure status = true)
    (shapeless : ∀ members, read? body ≠ some (.obj members)) : interpret read? url status body =
      .error (.failed Error.serviceCode s!"Response from {url} is not a JSON object") := by
  have unreported := reported?_of_silent silent
  cases data : read? body with
  | none => simp only [interpret, data, Option.bind_none, if_neg success]
  | some j =>
    rw [data] at unreported
    cases j with
    | obj members => exact absurd data (shapeless members)
    | _ => simp only [interpret, data, unreported, if_neg success]

theorem interpret_ne_busy (message : String) :
    interpret read? url status body ≠ .error (.busy message) := by
  intro busy
  by_cases failure : isFailure status = true
  · rw [interpret_failure silent failure] at busy
    cases busy
  · by_cases object : ∃ members, read? body = some (.obj members)
    · obtain ⟨members, data⟩ := object
      rw [interpret_object silent failure data] at busy
      cases busy
    · rw [interpret_shapeless silent failure fun members data => object ⟨members, data⟩] at busy
      cases busy

end Silent

theorem settles_interpret (read? : String → Option Json) (url : String) (status : Int)
    (body : String) : Settles read? url status body (interpret read? url status body) := by
  by_cases reports : ∃ e, Reports read? body e
  · obtain ⟨e, reports⟩ := reports
    have only {e' : Json} (h : Reports read? body e') : e' = e := reports_unique h reports
    have spoken (silent : ∀ e, ¬Reports read? body e) : False := silent e reports
    rw [interpret_reports url status reports]
    refine ⟨?_, ?_, fun silent => (spoken silent).elim, fun silent => (spoken silent).elim,
      fun silent => (spoken silent).elim⟩
    · constructor
      · rintro ⟨message, busy⟩
        refine ⟨e, reports, codeOf_eq_busyCode.mp ?_⟩
        by_contra other
        rw [if_neg other] at busy
        cases busy
      · rintro ⟨e', reports', code⟩
        rw [only reports', ← codeOf_eq_busyCode] at code
        exact ⟨_, by rw [if_pos code]⟩
    · intro e' reports' other
      rw [only reports', Ne, ← codeOf_eq_busyCode] at other
      rw [only reports', if_neg other]
      rfl
  · have silent : ∀ e, ¬Reports read? body e := fun e h => reports ⟨e, h⟩
    refine ⟨?_, fun e h => (silent e h).elim, ?_, ?_, ?_⟩
    · constructor
      · rintro ⟨message, busy⟩
        exact absurd busy (interpret_ne_busy silent message)
      · rintro ⟨e, h, -⟩
        exact absurd h (silent e)
    · exact fun _ low high => interpret_failure silent (isFailure_iff.mpr ⟨low, high⟩)
    · exact fun _ success => interpret_shapeless silent (isFailure_iff.not.mpr success)
    · exact fun _ success _ => interpret_object silent (isFailure_iff.not.mpr success)

/-! ### Searches -/

theorem unreachable_ne_exhausted (url reason : String) :
    unreachable url reason ≠ exhausted url := by
  intro same
  have messages : s!"Request to {url} failed after {maxAttempts} attempts: {reason}" =
      s!"Request to {url} failed after {maxAttempts} attempts" := (Error.failed.inj same).2
  have lengths := congrArg String.length messages
  have longer : (toString " attempts: ").length = (toString " attempts").length + 2 := rfl
  simp only [String.length_append, longer] at lengths
  omega

/-- What an attempt makes of a search, if it is the one that decides. -/
inductive Decides (read? : String → Option Json) (url : String) : Attempt → Reply → Prop
  | failed (reason : String) : Decides read? url (.failed reason) (.error (unreachable url reason))
  | answered {status : Int} {body : String} {reply : Reply}
      (settles : Settles read? url status body reply) :
      Decides read? url (.answered status body) reply

theorem mem_query {params : List (String × Json)} {p : String × Json} :
    p ∈ query params ↔ p ∈ params ∧ p.2 ≠ .null := by
  obtain ⟨name, value⟩ := p
  rw [query, List.mem_filter, and_congr_right_iff]
  intro _
  cases value with
  | null => exact iff_of_false Bool.false_ne_true fun given => given rfl
  | _ => exact iff_of_true rfl fun null => by cases null

theorem search_eq (read? : String → Option Json) (c : Client) {operation : String}
    (known : operation ∈ operations) (params : List (String × Json)) {attempts : List Attempt}
    {last : Attempt} {calls : List Call} {pauses : List Nat}
    (made : exchange ⟨c.url operation, query params, c.timeout⟩ maxAttempts 1 attempts =
      ⟨outcome (c.url operation) last, calls, pauses⟩) :
    ∃ reply, c.search read? operation params attempts = .ok ⟨reply, calls, pauses⟩ ∧
      Decides read? (c.url operation) last reply := by
  rw [search, if_pos (List.contains_iff_mem.mpr known)]
  simp only [made]
  cases last with
  | failed reason => exact ⟨_, rfl, .failed reason⟩
  | answered status body => exact ⟨_, rfl, .answered (settles_interpret read? _ status body)⟩

/-- A search is decided by its first final attempt, or else by the last of those it is allowed.
Every attempt sends the same request, the pauses between them double, and there is always an attempt
that decides. -/
theorem search_decided (read? : String → Option Json) (c : Client) {operation : String}
    (known : operation ∈ operations) (params : List (String × Json)) {attempts : List Attempt}
    (enough : maxAttempts ≤ attempts.length) :
    let call : Call := ⟨c.url operation, query params, c.timeout⟩
    (∀ p, p ∈ call.query ↔ p ∈ params ∧ p.2 ≠ .null) ∧
    ∃ reply last, attempts[attemptsMade attempts - 1]? = some last ∧
      c.search read? operation params attempts = .ok
        { reply
          calls := List.replicate (attemptsMade attempts) call
          pauses := (List.range (attemptsMade attempts - 1)).map (2 ^ ·) } ∧
      Decides read? call.url last reply ∧
      (exchange call maxAttempts 1 attempts).answer ≠ .error (exhausted call.url) := by
  intro call
  refine ⟨fun p => mem_query, ?_⟩
  obtain ⟨last, place, made⟩ := exchange_eq call attempts (maxAttempts - 1) 1 enough
  have pauses : pausesFrom 1 (deciding (maxAttempts - 1) attempts + 1) =
      (List.range (deciding (maxAttempts - 1) attempts)).map (2 ^ ·) := by
    simp only [pausesFrom, one_mul, Nat.add_sub_cancel]
  rw [pauses] at made
  rw [attemptsMade_eq, Nat.add_sub_cancel]
  obtain ⟨reply, searched, decides⟩ := search_eq read? c known params made
  refine ⟨reply, last, place, searched, decides, ?_⟩
  rw [show exchange call maxAttempts 1 attempts = _ from made]
  cases last with
  | failed reason => exact fun same => unreachable_ne_exhausted _ reason (Except.error.inj same)
  | answered status body => nofun

def letters : Client := ⟨"http://localhost/", "letters", .int 30⟩

def turnedAway : List Attempt := [.failed "reset", .answered 429 "", .failed "refused"]

/-- The last attempt decides all the same: what the server had said does not count. -/
theorem search_decided_turnedAway : "hits" ∈ operations ∧ maxAttempts ≤ turnedAway.length ∧
    ∃ s, letters.search data? "hits" [("sort", .null)] turnedAway = .ok s ∧
      s.reply = .error (unreachable (letters.url "hits") "refused") ∧
      s.calls.length = 3 ∧ s.pauses = [1, 2] := by
  have known : "hits" ∈ operations := by decide
  have enough : maxAttempts ≤ turnedAway.length := by decide
  obtain ⟨-, reply, last, place, searched, decides, -⟩ :=
    search_decided data? letters known [("sort", .null)] enough
  refine ⟨known, enough, _, searched, ?_, rfl, rfl⟩
  have third : turnedAway[attemptsMade turnedAway - 1]? = some (.failed "refused") := rfl
  rw [Option.some.inj (place.symm.trans third)] at decides
  cases decides with
  | failed reason => rfl

end Client

end Backend

end Concordance
