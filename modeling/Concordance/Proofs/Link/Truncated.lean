import Concordance.Proofs.Link.Reread

/-! An address that was made short enough says all of the address that would have been too long,
but for the pattern and its gap data. -/

namespace Concordance

/-! ### Addresses with one path -/

namespace Url

/-- Segments of unreserved characters after slashes. The first of them may name a host. -/
structure IsRooted (path : List Char) : Prop where
  chars : ∀ c ∈ path, isPathChar c
  slash : path.head? = some '/'

variable {path query : List Char}

theorem mem_host {c : Char} (member : c ∈ (host path).1 ∨ c ∈ (host path).2) : c ∈ path := by
  rw [host.eq_def] at member
  split at member
  · next cs =>
    rw [List.span_eq_takeWhile_dropWhile, ← List.mem_append, List.takeWhile_append_dropWhile]
      at member
    exact List.mem_cons_of_mem _ (List.mem_cons_of_mem _ member)
  · exact member.resolve_left List.not_mem_nil

theorem span_append {p : Char → Bool} (stop : ∀ c ∈ query.head?, p c = false) (cs : List Char) :
    (cs ++ query).span p = ((cs.span p).1, (cs.span p).2 ++ query) := by
  simp only [List.span_eq_takeWhile_dropWhile]
  induction cs with
  | nil =>
    cases query with
    | nil => rfl
    | cons c query => simp [stop c rfl]
  | cons c cs ih =>
    cases inside : p c with
    | true =>
      rw [Prod.mk.injEq] at ih
      simp [inside, ih]
    | false => simp [inside]

theorem host_append (slash : path.head? = some '/') (mark : ∀ c ∈ query.head?, c = '?') :
    host (path ++ query) = ((host path).1, (host path).2 ++ query) := by
  obtain ⟨tail, rfl⟩ := List.head?_eq_some_iff.mp slash
  cases tail with
  | nil =>
    cases query with
    | nil => rfl
    | cons d query =>
      rw [mark d rfl]
      exact host_of_single '?' query (by decide)
  | cons c cs =>
    by_cases second : c = '/'
    · subst second
      apply span_append
      intro d first
      rw [mark d first]
      rfl
    · rw [List.cons_append, List.cons_append, host_of_single c _ second, host_of_single c _ second]
      rfl

theorem isHost_of_isPathChar {name : List Char} (chars : ∀ c ∈ name, isPathChar c) :
    isHost name := by
  have noBracket : name.contains '[' = false := by
    simpa using fun member => absurd (chars '[' member) (by decide)
  have noBracket' : name.contains ']' = false := by
    simpa using fun member => absurd (chars ']' member) (by decide)
  have plain : name.any (fun c => disguised.contains c.toNat) = false := by
    refine List.any_eq_false.mpr fun c member signed => ?_
    -- the signs in disguise are beyond ASCII
    have far : ∀ code ∈ disguised, 0x80 ≤ code := by decide
    have near : c.toNat < 0x80 := by
      have shape := chars c member
      rw [isPathChar, Bool.or_eq_true, beq_iff_eq] at shape
      rcases shape with plain | rfl
      · exact (isUnreserved_ascii plain).1
      · decide
    exact absurd (far _ (List.contains_iff_mem.mp signed)) (Nat.not_le.mpr near)
  rw [isHost, noBracket, noBracket', plain]
  rfl

end Url

namespace Site

variable {path : List Char}

theorem isAddressChar_of_mem_query {params : Params} {c : Char} (member : c ∈ query params) :
    Url.isAddressChar c := by
  cases params with
  | nil => cases member
  | cons p ps =>
    rcases List.mem_cons.mp member with rfl | inside
    · rfl
    · simp [Url.isAddressChar, Url.isQueryChar_of_mem _ inside]

theorem split_join (rooted : Url.IsRooted path) (params : Params) :
    Url.split (Link.join path params) = ⟨(Url.host path).2, Url.queryText params⟩ := by
  have mark : ∀ c ∈ (query params).head?, c = '?' := by
    cases params with
    | nil => nofun
    | cons p ps => exact fun c first => (Option.some.inj first).symm
  have address : ∀ c ∈ path ++ query params, Url.isAddressChar c := by
    intro c member
    rcases List.mem_append.mp member with inside | inside
    · have shape := rooted.chars c inside
      rw [Url.isPathChar, Bool.or_eq_true] at shape
      rcases shape with plain | slash
      · simp [Url.isAddressChar, Url.isQueryChar, Url.isCoded, plain]
      · simp [Url.isAddressChar, slash]
    · exact isAddressChar_of_mem_query inside
  have head : (path ++ query params).head? = some '/' := by
    rw [List.head?_append, rooted.slash, Option.some_or]
  have noFragment : '#' ∉ (Url.host path).2 ++ query params := by
    intro member
    refine absurd (address '#' (List.mem_append.mpr ?_)) (by decide)
    exact (List.mem_append.mp member).imp_left fun inside => Url.mem_host (.inr inside)
  have noMark : '?' ∉ (Url.host path).2 := fun member =>
    absurd (rooted.chars '?' (Url.mem_host (.inr member))) (by decide)
  have host : Url.isHost (Url.host path).1 = true :=
    Url.isHost_of_isPathChar fun c member => rooted.chars c (Url.mem_host (.inl member))
  have text : (query params).tail?.getD [] = Url.queryText params := by
    cases params <;> rfl
  rw [join_eq, Url.split, Url.split?, Url.cleaned_of_isAddressChar address head,
    Url.withoutScheme_of_isAddressChar address, Url.host_append rooted.slash mark]
  simp only [host, if_true, Text.cut_of_not_mem noFragment, cut_query noMark, Option.getD_some,
    text]

variable {site : Site} {name : List Char}

theorem isRooted_root (base : Url.IsRooted site.basePath.toList)
    (plain : ∀ c ∈ name, Url.isUnreserved c) : Url.IsRooted (site.root ++ name) := by
  obtain ⟨rest, whole⟩ := Text.isPrefix_trimEnd (· == '/') site.basePath.toList
  rw [root, page, String.toList_ofList]
  generalize Text.trimEnd (· == '/') site.basePath.toList = page at whole
  rw [← whole] at base
  constructor
  · intro c member
    rw [List.mem_append, List.mem_append, List.mem_singleton] at member
    rcases member with (inside | rfl) | inside
    · exact base.chars c (List.mem_append_left rest inside)
    · rfl
    · simp [Url.isPathChar, plain c inside]
  · cases page with
    | nil => rfl
    | cons c page => exact base.slash

end Site

/-! ### Parameters that are left -/

theorem Text.joined_sublist {sep : Char} {ps qs : List (List Char)} (fewer : ps.Sublist qs) :
    (joined sep ps).Sublist (joined sep qs) := by
  induction fewer with
  | slnil => exact .slnil
  | @cons ps qs q _ ih =>
    cases qs with
    | nil => exact ih.trans (List.nil_sublist q)
    | cons r qs =>
      rw [joined_cons sep q (List.cons_ne_nil r qs)]
      exact (ih.cons sep).trans (List.sublist_append_right q _)
  | @cons_cons ps qs q fewer ih =>
    cases ps with
    | nil =>
      cases qs with
      | nil => exact .refl q
      | cons r qs => exact List.sublist_append_left q _
    | cons p ps =>
      have more : qs ≠ [] := List.ne_nil_of_mem (fewer.mem List.mem_cons_self)
      rw [joined_cons sep q (List.cons_ne_nil p ps), joined_cons sep q more]
      exact (ih.cons_cons sep).append_left q

namespace Link

theorem once_shortened (ps : List (String × String)) :
    Url.once (shortened ps) = shortened (Url.once ps) := by
  -- a name is dropped with all its values, so those of another name are as many as before
  have same (p : String × String) (left : !isDroppable p.1) :
      (shortened ps).filter (·.1 = p.1) = ps.filter (·.1 = p.1) := by
    rw [shortened, List.filter_filter]
    refine List.filter_congr fun q _ => ?_
    by_cases named : q.1 = p.1
    · simp [named, left]
    · simp [named]
  rw [Url.once, Url.once, shortened, shortened, List.filter_filter, List.filter_filter]
  refine List.filter_congr fun p _ => ?_
  cases left : !isDroppable p.1 with
  | true => rw [← shortened, same p left, Bool.and_comm]
  | false => rw [Bool.and_false, Bool.false_and]

theorem value?_shortened (ps : List (String × String)) (name : String) :
    Url.value? (shortened ps) name = if isDroppable name then none else Url.value? ps name := by
  rw [Url.value?, Url.value?, once_shortened]
  cases dropped : isDroppable name with
  | true =>
    have missing : (shortened (Url.once ps)).find? (·.1 = name) = none := by
      refine List.find?_eq_none.mpr fun p member named => ?_
      have left := (List.mem_filter.mp member).2
      rw [of_decide_eq_true named, dropped] at left
      cases left
    rw [missing, if_pos rfl, Option.map_none]
  | false =>
    rw [if_neg Bool.false_ne_true, shortened, List.find?_filter]
    refine congrArg (fun test => ((Url.once ps).find? test).map (·.2)) (funext fun p => ?_)
    by_cases named : p.1 = name
    · simp [named, dropped]
    · simp [named]

end Link

/-- Two readings that agree but for the pattern and its gap data, which the first one lost. -/
structure LinkState.Lost (d full : LinkState) : Prop where
  interface : d.interface = full.interface
  filters : d.filters = full.filters
  globals : d.globals = full.globals
  hits : d.hits = full.hits
  docs : d.docs = full.docs
  gap : d.gap = none
  advanced : d.advanced = .advanced none
  expert : d.expert = .expert none

namespace Site

variable {site : Site} {s : Settings} {viewed : Option String} {ps : Params} {x : Snapshot}

theorem globalsOf_shortened (ps : Params) : globalsOf (Link.shortened ps) = globalsOf ps := by
  simp [globalsOf, integerOf?, Link.value?_shortened, Link.isDroppable]

theorem queryOf_shortened (s : Settings) (viewed : Option String) (ps : Params) :
    queryOf s viewed (Link.shortened ps) =
      { queryOf s viewed ps with pattern := none, gap := none } := by
  simp [queryOf, Link.value?_shortened, Link.isDroppable, Text.nonEmpty?]

theorem modeOf_shortened (found : site.params x = .ok ps) (viewed : Option String) :
    modeOf site.settings viewed (Link.shortened ps) = modeOf site.settings viewed ps := by
  obtain ⟨search, asked⟩ := exists_parameters found
  cases search with
  -- nothing is dropped, and without a view there is no interface either
  | none => rw [shortened_of_parameters_none asked found]
  | some P =>
    obtain ⟨v, texts, -, written, rfl⟩ := params_of_parameters asked found
    have said := Link.value?_written written (Link.interfaceText v.mode)
      (Text.nonEmpty? x.results.displayMode) "interface"
    rw [Url.pairs_queryText, if_pos rfl] at said
    have kept := Link.value?_shortened (Link.written texts (Link.interfaceText v.mode)
      (Text.nonEmpty? x.results.displayMode)) "interface"
    rw [if_neg (by decide), said] at kept
    rw [modeOf, modeOf, said, kept, Option.bind_some, requestedMode?_interfaceText]
    rfl

theorem not_isTooDeep_params (found : site.params x = .ok ps) (depth : Nat) :
    ¬IsTooDeep depth ps := by
  obtain ⟨search, asked⟩ := exists_parameters found
  cases search with
  | none =>
    -- no search is asked for: the interface stands alone, or there is none
    obtain ⟨display, rfl⟩ : ∃ display,
        ps = x.view.toList.map (fun v => ("interface", Link.interfaceText v.mode)) ++
          Link.displayPart display := by
      rw [Site.params, asked] at found
      rw [← Except.ok.inj found]
      split
      · next d _ _ =>
        split
        · exact ⟨none, rfl⟩
        · exact ⟨some d, rfl⟩
      · exact ⟨none, rfl⟩
    cases view : x.view with
    | none =>
      refine not_isTooDeep_of_none ?_
      cases display <;> rfl
    | some v =>
      refine not_isTooDeep_of_interfaceText (m := v.mode) ?_
      cases display <;> rfl
  | some P =>
    obtain ⟨v, texts, -, written, rfl⟩ := params_of_parameters asked found
    have said := Link.value?_written written (Link.interfaceText v.mode)
      (Text.nonEmpty? x.results.displayMode) "interface"
    rw [Url.pairs_queryText, if_pos rfl] at said
    exact not_isTooDeep_of_interfaceText said

theorem isTooDeep_shortened_iff {depth : Nat} :
    IsTooDeep depth (Link.shortened ps) ↔ IsTooDeep depth ps := by
  rw [IsTooDeep, IsTooDeep, Link.value?_shortened, if_neg (by decide)]

theorem lost_shortened (mode : modeOf s viewed (Link.shortened ps) = modeOf s viewed ps) :
    (stateOf s viewed (Link.shortened ps)).Lost (stateOf s viewed ps) := by
  have results : resultsOf (Link.shortened ps) = resultsOf ps := by
    funext groups displayMode pageSize
    simp [resultsOf, integerOf?, Link.value?_shortened, Link.isDroppable]
  constructor
  · rw [stateOf, stateOf, mode]
  all_goals rw [stateOf, queryOf_shortened, globalsOf_shortened, results]
  · rfl
  · rfl
  · rfl
  · rfl
  · simp only [Query.shown, Query.advanced?]
    split <;> rfl
  · rfl

/-! ### Addresses under a limit -/

def link (site : Site) (x : Snapshot) (truncated : Bool) (kept : Params) : Link where
  url := String.ofList (Link.join (site.root ++ x.segment) kept)
  path := String.ofList (site.root ++ x.segment)
  params := kept
  truncated

theorem encode_of_params (found : site.params x = .ok ps) : site.encode x =
    .ok (if ((site.link x false ps).url.length : Int) ≤ site.maxLength then site.link x false ps
      else site.link x true (Link.shortened ps)) := by
  rw [encode, found, link, String.length_ofList, apply_ite Except.ok]
  rfl

theorem query_sublist (ps : Params) : (query (Link.shortened ps)).Sublist (query ps) := by
  have fewer : ((Link.shortened ps).map Url.pairText).Sublist (ps.map Url.pairText) :=
    List.filter_sublist.map _
  have texts : (Url.queryText (Link.shortened ps)).Sublist (Url.queryText ps) :=
    Text.joined_sublist fewer
  cases ps with
  | nil => exact .slnil
  | cons p ps =>
    cases kept : Link.shortened (p :: ps) with
    | nil => exact List.nil_sublist _
    | cons q qs =>
      rw [kept] at texts
      exact texts.cons_cons '?'

theorem length_shortened (site : Site) (x : Snapshot) (ps : Params) :
    (site.link x true (Link.shortened ps)).url.length ≤ (site.link x false ps).url.length := by
  rw [link, link, String.length_ofList, String.length_ofList, join_eq, join_eq]
  exact ((query_sublist ps).append_left _).length_le

section Read

variable (base : Url.IsRooted site.basePath.toList) (known : IsResultView x.viewed)

include base known

theorem decode_link {depth : Nat} (truncated : Bool) (shallow : ¬IsTooDeep depth ps) :
    site.decode depth (site.link x truncated ps).url =
      .ok (stateOf site.settings (viewedOf (site.link x false []).url) ps) := by
  have plain : ∀ c ∈ x.segment, Url.isUnreserved c := by
    rw [Snapshot.segment]
    rcases known with viewed | viewed | viewed <;> rw [viewed] <;>
      exact List.all_eq_true.mp (by decide)
  have split (truncated : Bool) (ps : Params) :
      Url.split (site.link x truncated ps).url.toList =
        ⟨(Url.host (site.root ++ x.segment)).2, Url.queryText ps⟩ := by
    rw [link, String.toList_ofList]
    exact split_join (isRooted_root base plain) ps
  have params : paramsOf (site.link x truncated ps).url = ps := by
    rw [paramsOf, split, Url.pairs_queryText]
  rw [decode_eq site (params.symm ▸ shallow), params, viewedOf, viewedOf, split, split]

/-- An address that is too long is made no longer and loses the pattern, and nothing else. -/
theorem encode_loses_pattern {e : Link} (coded : site.encode x = .ok e) : ∃ full,
    (∀ limit : Int, full.url.length ≤ limit →
      { site with maxLength := limit }.encode x = .ok full) ∧ full.truncated = false ∧
      (full.url.length ≤ site.maxLength → e = full) ∧
      (site.maxLength < full.url.length → e.truncated = true ∧
        e.url.length ≤ full.url.length ∧ ∀ depth, ∃ d whole, site.decode depth e.url = .ok d ∧
          site.decode depth full.url = .ok whole ∧ d.Lost whole) := by
  obtain ⟨ps, links⟩ := exists_links coded
  have found := links.params
  rw [encode_of_params found] at coded
  refine ⟨site.link x false ps, ?_, rfl, ?_, ?_⟩
  · intro limit short
    have unlimited : { site with maxLength := limit }.params x = .ok ps := found
    rw [encode_of_params unlimited]
    exact congrArg Except.ok (if_pos short)
  · intro short
    rw [if_pos short] at coded
    exact (Except.ok.inj coded).symm
  · intro long
    rw [if_neg (Int.not_le.mpr long)] at coded
    rw [← Except.ok.inj coded]
    refine ⟨rfl, length_shortened site x ps, fun depth => ?_⟩
    have shallow := not_isTooDeep_params found depth
    exact ⟨_, _, decode_link base known true (mt isTooDeep_shortened_iff.mp shallow),
      decode_link base known false shallow, lost_shortened (modeOf_shortened found _)⟩

end Read

def cramped : Site := { library with maxLength := 200 }

theorem encode_loses_pattern_poetry :
    Url.IsRooted cramped.basePath.toList ∧ IsResultView poetry.viewed ∧
      ∃ e full : Link, cramped.encode poetry = .ok e ∧ e.truncated = true ∧ full.truncated = false ∧
        ∀ depth, ∃ d whole, cramped.decode depth e.url = .ok d ∧
          cramped.decode depth full.url = .ok whole ∧ d.Lost whole := by
  have base : Url.IsRooted cramped.basePath.toList :=
    ⟨List.all_eq_true.mp (by decide), by decide⟩
  have known : IsResultView poetry.viewed := .inr (.inr rfl)
  have cut : (cramped.encode poetry).toOption.map (·.truncated) = some true := by
    decide +kernel
  cases coded : cramped.encode poetry with
  | error refusal =>
    rw [coded] at cut
    cases cut
  | ok e =>
    rw [coded] at cut
    have truncated : e.truncated = true := Option.some.inj cut
    obtain ⟨full, -, whole, same, lost⟩ := encode_loses_pattern base known coded
    have long : cramped.maxLength < full.url.length := by
      refine Int.not_le.mp fun short => ?_
      rw [same short, whole] at truncated
      cases truncated
    exact ⟨base, known, e, full, rfl, truncated, whole, (lost long).2.2⟩

end Site

end Concordance
