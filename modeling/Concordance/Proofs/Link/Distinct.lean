import Concordance.Navigation
import Concordance.Proofs.Pattern.Reordered
import Concordance.Proofs.Link.RoundTrip

/-! What two snapshots with one address have in common: the result view and all parameters that are
written in it. -/

namespace Concordance

def Snapshot.segment (x : Snapshot) : List Char := (x.viewed.getD "").toList

/-- The name of the result view is a segment of a path, as `hits` and `docs` are. -/
def Snapshot.IsNamed (x : Snapshot) : Prop := '/' ∉ x.segment ∧ '?' ∉ x.segment

structure Snapshot.Asks (s : Settings) (x : Snapshot) (v : View) (P : Parameters) : Prop where
  viewed : x.viewed.isSome
  view : x.view = some v
  pattern : P.pattern = (v.compile s).pattern
  gap : P.gap = if P.pattern.isSome then x.activeGap else none
  filter : P.filter = Filter.encode? x.activeFilters.values
  group : P.group = x.results.group.param

theorem Snapshot.exists_asks {s : Settings} {x : Snapshot} {P : Parameters}
    (asked : x.parameters s = .ok (some P)) : ∃ v, x.Asks s v P := by
  rw [parameters] at asked
  split at asked
  · next v viewed view =>
    dsimp only at asked
    cases valid : x.globals.validate with
    | error u =>
      rw [valid] at asked
      cases asked
    | ok _ =>
      rw [valid] at asked
      cases asked
      exact ⟨v, by rw [viewed]; rfl, view, rfl, rfl, rfl, rfl⟩
  · cases asked

def Link.shortened (ps : List (String × String)) : List (String × String) :=
  ps.filter fun p => !isDroppable p.1

namespace Site

variable {site : Site} {x y : Snapshot} {ps qs : List (String × String)} {e f : Link}

structure Links (site : Site) (x : Snapshot) (ps : List (String × String)) (e : Link) : Prop where
  params : site.params x = .ok ps
  kept : e.params = if e.truncated then Link.shortened ps else ps
  url : e.url.toList = Link.join (site.root ++ x.segment) e.params
  truncated : e.truncated = true ↔
    site.maxLength < ((Link.join (site.root ++ x.segment) ps).length : Int)

theorem exists_links (coded : site.encode x = .ok e) : ∃ ps, site.Links x ps e := by
  rw [encode] at coded
  cases found : site.params x with
  | error r =>
    rw [found] at coded
    cases coded
  | ok ps =>
    rw [found] at coded
    refine ⟨ps, ?_⟩
    simp only [bind, Except.bind] at coded
    split at coded
    · next short =>
      cases coded
      exact ⟨found, rfl, String.toList_ofList,
        iff_of_false Bool.false_ne_true (Int.not_lt.mpr short)⟩
    · next long =>
      cases coded
      exact ⟨found, rfl, String.toList_ofList, iff_of_true rfl (Int.not_le.mp long)⟩

def query : List (String × String) → List Char
  | [] => []
  | p :: ps => '?' :: Url.queryText (p :: ps)

theorem join_eq (path : List Char) (ps : List (String × String)) :
    Link.join path ps = path ++ query ps := by
  cases ps with
  | nil => exact (List.append_nil path).symm
  | cons p ps => rfl

theorem cut_query {segment : List Char} (free : '?' ∉ segment) (ps : List (String × String)) :
    Text.cut '?' (segment ++ query ps) = (segment, (query ps).tail?) := by
  cases ps with
  | nil => rw [query, List.append_nil, Text.cut_of_not_mem free, List.tail?_nil]
  | cons p ps => exact Text.cut_append _ free

theorem query_injective (same : query ps = query qs) : ps = qs := by
  cases ps with
  | nil =>
    cases qs with
    | nil => rfl
    | cons q qs => cases same
  | cons p ps =>
    cases qs with
    | nil => cases same
    | cons q qs =>
      have text := congrArg Url.pairs (List.cons.inj same).2
      rwa [Url.pairs_queryText, Url.pairs_queryText] at text

theorem slash_not_mem_query (ps : List (String × String)) : '/' ∉ query ps := by
  intro member
  cases ps with
  | nil => cases member
  | cons p ps =>
    rcases List.mem_cons.mp member with same | inside
    · exact absurd same (by decide)
    · exact absurd (Url.isQueryChar_of_mem (p :: ps) inside) (by decide)

theorem trimEnd_root (site : Site) : Text.trimEnd (· == '/') site.root = site.page.toList := by
  rw [root, Text.trimEnd_concat _ rfl, page, String.toList_ofList]
  exact Text.trimEnd_of_last (Text.last_trimEnd _ _)

theorem bare_url (h : site.Links x ps e) (named : x.IsNamed) : Navigation.bare e.url =
    if x.segment ++ query e.params = [] then site.page.toList else e.url.toList := by
  rw [Navigation.bare, h.url, join_eq, List.append_assoc]
  split
  · next empty => rw [empty, List.append_nil, trimEnd_root]
  · next rest =>
    apply Text.trimEnd_of_last
    intro c member
    rw [List.getLast?_append_of_ne_nil _ rest] at member
    rw [beq_eq_false_iff_ne]
    intro slash
    subst slash
    rcases List.mem_append.mp (List.mem_of_mem_getLast? member) with inside | inside
    · exact named.1 inside
    · exact slash_not_mem_query _ inside

theorem url_eq_of_bare (left : site.Links x ps e) (right : site.Links y qs f) (named : x.IsNamed)
    (named' : y.IsNamed) (same : Navigation.bare e.url = Navigation.bare f.url) :
    e.url.toList = f.url.toList := by
  have short (rest : List Char) : site.page.toList ≠ site.root ++ rest := by
    intro equal
    have lengths := congrArg List.length equal
    simp only [root, List.length_append, List.length_singleton] at lengths
    omega
  rw [bare_url left named, bare_url right named'] at same
  rw [left.url, right.url, join_eq, join_eq, List.append_assoc, List.append_assoc] at same ⊢
  split at same
  · next empty =>
    split at same
    · next empty' => rw [empty, empty']
    · exact absurd same (short _)
  · split at same
    · exact absurd same.symm (short _)
    · exact same

theorem eq_of_url (left : site.Links x ps e) (right : site.Links y qs f) (named : x.IsNamed)
    (named' : y.IsNamed) (url : e.url.toList = f.url.toList) :
    x.segment = y.segment ∧ e.params = f.params := by
  rw [left.url, right.url, join_eq, join_eq, List.append_assoc, List.append_assoc] at url
  have rest := List.append_cancel_left url
  have parts := congrArg (Text.cut '?') rest
  rw [cut_query named.2, cut_query named'.2] at parts
  have segment := (Prod.mk.inj parts).1
  rw [segment] at rest
  exact ⟨segment, query_injective (List.append_cancel_left rest)⟩

theorem length_url_le (h : site.Links x ps e) (whole : ¬e.truncated) :
    (e.url.toList.length : Int) ≤ site.maxLength := by
  have kept := h.kept
  rw [if_neg whole] at kept
  rw [h.url, kept]
  exact Int.not_lt.mp fun long => whole (h.truncated.mpr long)

theorem names_of_parameters_none (nothing : x.parameters site.settings = .ok none)
    (found : site.params x = .ok ps) :
    ∀ p ∈ ps, p.1 = "interface" ∨ p.1 = "groupDisplayMode" := by
  rw [Site.params, nothing] at found
  cases found
  intro p member
  simp only [List.mem_append] at member
  rcases member with (search | interface) | display
  · cases search
  · obtain ⟨v, -, rfl⟩ := List.mem_map.mp interface
    exact .inl rfl
  · split at display
    · split at display
      · cases display
      · exact .inr (by rw [List.mem_singleton.mp display])
    · cases display

end Site

namespace Link

def kept (ps : List (String × Option Parameter)) : List (String × Option Parameter) :=
  ps.map fun e => (e.1, if isDroppable e.1 then none else e.2)

theorem kept_cons (name : String) (p : Option Parameter) (ps : List (String × Option Parameter)) :
    kept ((name, p) :: ps) = (name, if isDroppable name then none else p) :: kept ps := rfl

theorem texts?_kept {ps : List (String × Option Parameter)} {texts : List (String × String)}
    (h : texts? ps = some texts) :
    texts? (kept ps) = some (shortened texts) := by
  induction ps generalizing texts with
  | nil =>
    cases h
    rfl
  | cons e ps ih =>
    obtain ⟨name, p⟩ := e
    rw [kept_cons]
    rcases texts?_cons h with ⟨rfl, found⟩ | ⟨q, text, rest, rfl, written, found, rfl⟩
    · rw [ite_self]
      exact ih found
    · cases dropped : isDroppable name with
      | true =>
        rw [if_pos rfl, texts?, ih found]
        cases text.isEmpty <;> simp [shortened, dropped]
      | false =>
        rw [if_neg Bool.false_ne_true, texts?_some written, ih found]
        cases text.isEmpty <;> simp [shortened, dropped]

theorem shortened_written (texts : List (String × String)) (interface : String)
    (display : Option String) :
    shortened (written texts interface display) = written (shortened texts) interface display := by
  cases display <;> simp [shortened, written, displayPart, isDroppable]

theorem isReadable_of_texts? {ps : List (String × Option Parameter)}
    {texts : List (String × String)} (h : texts? ps = some texts) : ∀ e ∈ ps, IsReadable e.2 := by
  induction ps generalizing texts with
  | nil => nofun
  | cons e ps ih =>
    obtain ⟨name, p⟩ := e
    rw [List.forall_mem_cons]
    rcases texts?_cons h with ⟨rfl, found⟩ | ⟨q, text, rest, rfl, written, found, -⟩
    · exact ⟨nofun, ih found⟩
    · refine ⟨?_, ih found⟩
      intro r same
      cases same
      exact ⟨text, written⟩

theorem isWritten_of_isReadable {i : Option Int} (h : IsReadable (i.map .int)) :
    ∀ n ∈ i, isWritten n := by
  intro n member
  obtain ⟨text, written⟩ := h (.int n) (by rw [member]; rfl)
  by_contra long
  rw [Parameter.int, parameterText?, numberText?, if_neg fun short => long (decide_eq_true short)]
    at written
  cases written

theorem says_of_texts? {P : Parameters} {texts : List (String × String)}
    (h : texts? P.pairs = some texts) (interface : String) (display : Option String) :
    Says (written texts interface display) P := by
  have readable := isReadable_of_texts? h
  simp only [Parameters.pairs, List.forall_mem_cons] at readable
  obtain ⟨-, first, -, number, -, -, -, -, seed, -, -, words, -⟩ := readable
  have said := says_written h interface display
    (isWritten_of_isReadable (i := some P.first) first _ rfl)
    (isWritten_of_isReadable (i := some P.number) number _ rfl) (isWritten_of_isReadable seed)
    (isWritten_of_isReadable words)
  rwa [Url.pairs_queryText] at said

end Link

def Parameters.withoutPattern (P : Parameters) : Parameters :=
  { P with pattern := none, gap := none }

def Parameters.sent (truncated : Bool) (P : Parameters) : Parameters :=
  if truncated then P.withoutPattern else P

theorem Parameters.withoutPattern_eq (P : Parameters) (pattern : P.pattern = none)
    (gap : P.gap = none) : P.withoutPattern = P := by
  cases P
  cases pattern
  cases gap
  rfl

theorem Parameters.pairs_withoutPattern (P : Parameters) :
    P.withoutPattern.pairs = Link.kept P.pairs := by
  simp [pairs, withoutPattern, Link.kept, Link.isDroppable]

namespace Site

variable {site : Site} {x y : Snapshot} {ps qs : List (String × String)} {e f : Link}
  {P Q : Parameters}

theorem params_of_parameters (asked : x.parameters site.settings = .ok (some P))
    (found : site.params x = .ok ps) :
    ∃ v texts, x.view = some v ∧ Link.texts? P.pairs = some texts ∧
      ps = Link.written texts (Link.interfaceText v.mode)
        (Text.nonEmpty? x.results.displayMode) := by
  obtain ⟨v, search⟩ := Snapshot.exists_asks asked
  obtain ⟨name, viewed⟩ := Option.isSome_iff_exists.mp search.viewed
  rw [Site.params, asked] at found
  simp only [Except.mapError, bind, Except.bind, Option.map_some, Option.getD_some, viewed,
    search.view] at found
  cases texts : Link.texts? P.pairs with
  | none =>
    rw [texts] at found
    cases found
  | some ts =>
    rw [texts] at found
    refine ⟨v, ts, search.view, rfl, ?_⟩
    rw [← Except.ok.inj found]
    cases x.results.displayMode with
    | none => rfl
    | some d =>
      rw [Text.nonEmpty?_some]
      cases empty : d.isEmpty <;> simp [Link.written, Link.displayPart, empty]

theorem says_of_links (asked : x.parameters site.settings = .ok (some P))
    (h : site.Links x ps e) : Link.Says e.params (P.sent e.truncated) := by
  obtain ⟨v, texts, -, found, rfl⟩ := params_of_parameters asked h.params
  rw [h.kept]
  cases e.truncated with
  | false => exact Link.says_of_texts? found _ _
  | true =>
    rw [if_pos rfl, Link.shortened_written]
    apply Link.says_of_texts?
    rw [Parameters.sent, if_pos rfl, P.pairs_withoutPattern, Link.texts?_kept found]

theorem exists_parameters (found : site.params x = .ok ps) :
    ∃ search, x.parameters site.settings = .ok search := by
  rw [Site.params] at found
  cases asked : x.parameters site.settings with
  | error u =>
    rw [asked] at found
    cases found
  | ok search => exact ⟨search, rfl⟩

theorem mem_of_mem_params (h : site.Links x ps e) {p : String × String} (member : p ∈ e.params) :
    p ∈ ps := by
  rw [h.kept] at member
  split at member
  · exact (List.mem_filter.mp member).1
  · exact member

theorem first_of_parameters_none (nothing : x.parameters site.settings = .ok none)
    (h : site.Links x ps e) : Url.value? e.params "first" = none := by
  have names : "first" ∉ (Url.once e.params).map (·.1) := by
    intro member
    obtain ⟨p, inside, first⟩ := List.mem_map.mp member
    have given := mem_of_mem_params h (List.mem_filter.mp inside).1
    rcases names_of_parameters_none nothing h.params p given with name | name
    · exact absurd (first.symm.trans name) (by decide)
    · exact absurd (first.symm.trans name) (by decide)
  rw [Url.value?, Link.find?_eq_none_of_not_mem names]
  rfl

theorem shortened_ne (h : site.Links x ps e) (truncated : e.truncated)
    (short : (e.url.toList.length : Int) ≤ site.maxLength) : Link.shortened ps ≠ ps := by
  intro whole
  have kept := h.kept
  rw [if_pos truncated, whole] at kept
  rw [h.url, kept] at short
  exact absurd short (Int.not_le.mpr (h.truncated.mp truncated))

theorem shortened_of_parameters_none (nothing : x.parameters site.settings = .ok none)
    (found : site.params x = .ok ps) : Link.shortened ps = ps := by
  refine List.filter_eq_self.mpr fun p member => ?_
  rcases names_of_parameters_none nothing found p member with name | name
  · rw [name]
    decide
  · rw [name]
    decide

theorem shortened_of_pattern_none (asked : x.parameters site.settings = .ok (some P))
    (pattern : P.pattern = none) (found : site.params x = .ok ps) : Link.shortened ps = ps := by
  obtain ⟨v, search⟩ := Snapshot.exists_asks asked
  have gap : P.gap = none := by
    rw [search.gap, pattern]
    rfl
  obtain ⟨v, texts, -, written, rfl⟩ := params_of_parameters asked found
  have kept := Link.texts?_kept written
  rw [← P.pairs_withoutPattern, P.withoutPattern_eq pattern gap, written, Option.some.injEq] at kept
  rw [Link.shortened_written, ← kept]

theorem lost_of_truncated (h : site.Links x ps e) (truncated : e.truncated)
    (short : (e.url.toList.length : Int) ≤ site.maxLength) :
    ∃ P, x.parameters site.settings = .ok (some P) ∧ P.pattern.isSome := by
  have dropped := shortened_ne h truncated short
  obtain ⟨search, asked⟩ := exists_parameters h.params
  cases search with
  | none => exact absurd (shortened_of_parameters_none asked h.params) dropped
  | some P =>
    refine ⟨P, asked, Option.isSome_iff_ne_none.mpr fun missing => ?_⟩
    exact dropped (shortened_of_pattern_none asked missing h.params)

end Site

/-! ### Texts that are not empty -/

theorem Binary64.render_ne_nil (x : Binary64) : Binary64.render .plain x ≠ [] := by
  have magnitude (place : Nat) : magnitudeText .plain place ≠ [] := by
    rw [magnitudeText]
    split
    · exact List.cons_ne_nil _ _
    · dsimp only
      split
      · rw [positional]
        split
        · exact List.cons_ne_nil _ _
        · exact List.append_ne_nil_of_right_ne_nil _ (List.cons_ne_nil _ _)
      · exact List.append_ne_nil_of_right_ne_nil _ (Numeral.decimal_ne_nil _)
  cases x with
  | nan => exact List.cons_ne_nil _ _
  | infinite s => exact List.append_ne_nil_of_right_ne_nil _ (List.cons_ne_nil _ _)
  | finite s place => exact List.append_ne_nil_of_right_ne_nil _ (magnitude place)

theorem Link.numberText?_ne_nil (n : Number) : Link.numberText? n ≠ some [] := by
  cases n with
  | int i =>
    rw [numberText?]
    split
    · exact fun same => Numeral.signed_ne_nil i (Option.some.inj same)
    · exact (Option.some_ne_none _).symm
  | float x =>
    rw [numberText?]
    split
    · cases x.truncate? with
      | none => exact (Option.some_ne_none _).symm
      | some i => exact fun same => Numeral.signed_ne_nil i (Option.some.inj same)
    · exact fun same => x.render_ne_nil (Option.some.inj same)

theorem Link.nonEmpty?_number (n : Option Number) :
    Text.nonEmpty? (n.bind fun m => parameterText? (.number m)) =
      (n.bind numberText?).map String.ofList := by
  have texts : (n.bind fun m => parameterText? (.number m)) = (n.bind numberText?).map .ofList := by
    cases n <;> rfl
  rw [texts]
  apply Text.nonEmpty?_of_ne
  intro empty
  obtain ⟨text, written, same⟩ := Option.map_eq_some_iff.mp empty
  obtain ⟨m, -, number⟩ := Option.bind_eq_some_iff.mp written
  rw [String.ofList_eq_empty_iff.mp same] at number
  exact numberText?_ne_nil m number

theorem View.pattern_ne_empty (s : Settings) (v : View) : (v.compile s).pattern ≠ some "" := by
  cases v with
  | simple v => exact Pattern.ofValues?_ne_empty _ _ _
  | extended values within splitBatch => exact Pattern.ofValues?_ne_empty _ _ _
  | advanced pattern => exact Text.nonEmpty?_ne pattern
  | expert pattern => exact Text.nonEmpty?_ne pattern
  | frequency id => exact fun same => absurd (Option.some.inj same) (by decide)
  | ngram group size maxSize slots =>
    exact Text.nonEmpty?_ne (some (Pattern.text ⟨ngramTokens s.corpus size slots, none⟩ none))
  | corpora groupBy displayMode => nofun

structure Parameters.IsFilled (P : Parameters) : Prop where
  filter : P.filter ≠ some ""
  group : P.group ≠ some ""
  pattern : P.pattern ≠ some ""
  gap : P.gap ≠ some ""

theorem Parameters.IsFilled.sent {P : Parameters} (h : P.IsFilled) (truncated : Bool) :
    (P.sent truncated).IsFilled := by
  cases truncated with
  | false => exact h
  | true => exact ⟨h.filter, h.group, nofun, nofun⟩

theorem Snapshot.activeGap_ne_empty (x : Snapshot) : x.activeGap ≠ some "" := by
  rw [activeGap]
  split
  · exact Text.nonEmpty?_ne _
  · exact (Option.some_ne_none _).symm

theorem Snapshot.isFilled {s : Settings} {x : Snapshot} {P : Parameters}
    (asked : x.parameters s = .ok (some P)) : P.IsFilled := by
  obtain ⟨v, search⟩ := exists_asks asked
  constructor
  · rw [search.filter]
    exact Filter.encode?_ne_empty _
  · rw [search.group]
    exact GroupSpec.param_ne_empty _
  · rw [search.pattern]
    exact v.pattern_ne_empty s
  · rw [search.gap]
    split
    · exact x.activeGap_ne_empty
    · nofun

/-! ### What is told of a query -/

/-- Two queries that differ at most in the pattern and its gap data. Sizes of samples are compared
as they are written, and an empty text is no text. -/
structure Parameters.Agree (P Q : Parameters) : Prop where
  filter : P.filter = Q.filter
  first : P.first = Q.first
  group : P.group = Q.group
  number : P.number = Q.number
  sample : P.sample.bind Link.numberText? = Q.sample.bind Link.numberText?
  sampleCount : P.sampleCount.bind Link.numberText? = Q.sampleCount.bind Link.numberText?
  sampleSeed : P.sampleSeed = Q.sampleSeed
  sort : Text.nonEmpty? P.sort = Text.nonEmpty? Q.sort
  viewGroup : Text.nonEmpty? P.viewGroup = Text.nonEmpty? Q.viewGroup
  wordsAroundHit : P.wordsAroundHit = Q.wordsAroundHit

theorem Parameters.Agree.of_sent {P Q : Parameters} {cut cut' : Bool}
    (h : (P.sent cut).Agree (Q.sent cut')) : P.Agree Q := by
  cases cut <;> cases cut' <;>
    exact ⟨h.filter, h.first, h.group, h.number, h.sample, h.sampleCount, h.sampleSeed, h.sort,
      h.viewGroup, h.wordsAroundHit⟩

namespace Link

theorem intText_injective : Function.Injective intText := fun _ _ same =>
  Numeral.signed_injective (String.ofList_injective same)

theorem size_eq {m n : Option Number}
    (same : Text.nonEmpty? (m.bind fun k => parameterText? (.number k)) =
      Text.nonEmpty? (n.bind fun k => parameterText? (.number k))) :
    m.bind numberText? = n.bind numberText? := by
  rw [nonEmpty?_number, nonEmpty?_number] at same
  exact Option.map_injective (fun _ _ => String.ofList_injective) same

section Says

variable {params : List (String × String)} {P Q : Parameters} (left : Says params P)
  (right : Says params Q)

include left right

theorem Says.agree (filled : P.IsFilled) (filled' : Q.IsFilled) : P.Agree Q where
  filter := Text.eq_of_nonEmpty? filled.filter filled'.filter (left.filter.symm.trans right.filter)
  first := intText_injective (Option.some.inj (left.first.symm.trans right.first))
  group := Text.eq_of_nonEmpty? filled.group filled'.group (left.group.symm.trans right.group)
  number := intText_injective (Option.some.inj (left.number.symm.trans right.number))
  sample := size_eq (left.sample.symm.trans right.sample)
  sampleCount := size_eq (left.sampleCount.symm.trans right.sampleCount)
  sampleSeed :=
    Option.map_injective intText_injective (left.sampleSeed.symm.trans right.sampleSeed)
  sort := left.sort.symm.trans right.sort
  viewGroup := left.viewGroup.symm.trans right.viewGroup
  wordsAroundHit :=
    Option.map_injective intText_injective (left.wordsAroundHit.symm.trans right.wordsAroundHit)

theorem Says.pattern_eq (filled : P.IsFilled) (filled' : Q.IsFilled) :
    P.pattern = Q.pattern ∧ P.gap = Q.gap :=
  ⟨Text.eq_of_nonEmpty? filled.pattern filled'.pattern (left.pattern.symm.trans right.pattern),
    Text.eq_of_nonEmpty? filled.gap filled'.gap (left.gap.symm.trans right.gap)⟩

end Says

end Link

end Concordance
