import Concordance.Proofs.Link.Settings
import Concordance.Proofs.View.Simple

/-! A simple search that is shared by its address: whoever opens it searches for the same words,
unless their annotation is not declared. -/

namespace Concordance

open Text (isName isNameChar words)
open Wildcard (isOpen)

def Snapshot.simple (v : AnnotationValue) : Snapshot :=
  { ofView (.simple v) with viewed := some hits }

def Parameters.ofPattern (pattern : Option String) : Parameters where
  filter := none
  first := 0
  group := none
  number := GlobalSettings.defaultPageSize
  pattern
  gap := none
  sample := none
  sampleCount := none
  sampleSeed := none
  sort := none
  viewGroup := none
  wordsAroundHit := none

theorem Parameters.ofPattern_inj {pattern other : Option String} :
    ofPattern pattern = ofPattern other ↔ pattern = other :=
  ⟨congrArg Parameters.pattern, congrArg ofPattern⟩

namespace Snapshot

variable {s : Settings} {x : Snapshot} {v w : AnnotationValue}

theorem request_simple (view : x.view = some (.simple v)) (globals : x.globals = .initial)
    (results : x.results = .initial) :
    x.request s (.simple v) = .ofPattern ((View.simple v).compile s).pattern := by
  rw [request, activeFilters, activeGap, view, globals, results]
  cases ((View.simple v).compile s).pattern <;> rfl

theorem isRead_simple (s : Settings) (v : AnnotationValue) : (simple v).IsRead s (.simple v) where
  viewed := .inl rfl
  view := rfl
  globals := GlobalSettings.isRead_initial
  results := ResultSettings.isRead_initial
  enabled := nofun

theorem parameters_simple (s : Settings) (v : AnnotationValue) : (simple v).parameters s =
    .ok (some (.ofPattern ((View.simple v).compile s).pattern)) := by
  have asked : (simple v).parameters s = .ok (some ((simple v).request s (.simple v))) :=
    parameters_of_valid rfl rfl rfl
  rw [asked, request_simple rfl rfl rfl]

theorem parameters_linked (shown : ((simple v).reread s (.simple v)).simple? s = some (.simple w)) :
    ((simple v).linked s (.simple v)).parameters s =
      .ok (some (.ofPattern ((View.simple w).compile s).pattern)) := by
  have view : ((simple v).linked s (.simple v)).view = some (.simple w) := by
    have here : ((simple v).reread s (.simple v)).shown s (.search .simple) = .simple w := by
      rw [Query.shown, shown, Option.getD_some]
    exact congrArg some here
  have asked := parameters_of_valid (s := s) (x := (simple v).linked s (.simple v)) rfl view rfl
  rw [asked, request_simple view rfl rfl]

end Snapshot

namespace Site

variable {site : Site}

theorem exists_encode_simple (site : Site) (v : AnnotationValue) :
    ∃ e, site.encode (.simple v) = .ok e :=
  exists_encode_initial site rfl rfl rfl rfl

/-- A simple search for some words has an address, and unless it is too long the address asks for
the same again just if the searched annotation is declared or none of the words constrains
anything. -/
theorem simple_shared_iff {value : String} {sensitive : Bool} {kind : AnnotationKind}
    (base : Url.IsPath site.basePath.toList)
    (named : isName isNameChar site.settings.primary.toList)
    (splits : (site.settings.corpus.kindOf site.settings.primary).splitsWords)
    (typed : kind.splitsWords) (filled : Text.trim value.toList ≠ []) :
    ∃ e, site.encode (.simple ⟨site.settings.primary, value, sensitive, kind⟩) = .ok e ∧
      (e.truncated = false → ∀ depth, ∃ d, site.decode depth e.url = .ok d ∧
        (d.toSnapshot.parameters site.settings =
            (Snapshot.simple ⟨site.settings.primary, value, sensitive, kind⟩).parameters
              site.settings ↔
          site.settings.corpus.declares site.settings.primary ∨
            ∀ w ∈ words value.toList, isOpen w)) := by
  obtain ⟨e, coded⟩ :=
    exists_encode_simple site ⟨site.settings.primary, value, sensitive, kind⟩
  obtain ⟨ps, links⟩ := exists_links coded
  refine ⟨e, coded, fun whole depth => ?_⟩
  have read := Snapshot.isRead_simple site.settings
    ⟨site.settings.primary, value, sensitive, kind⟩
  obtain ⟨d, decoded, linked⟩ :=
    toSnapshot_links base links (by rw [whole]; exact Bool.false_ne_true) read depth
  refine ⟨d, decoded, ?_⟩
  rw [linked, Snapshot.parameters_simple]
  let v : AnnotationValue := ⟨site.settings.primary, value, sensitive,
    site.settings.corpus.kindOf site.settings.primary⟩
  have active : v.isActive := by
    rw [AnnotationValue.isActive_iff_words, Ne, Text.words_eq_nil_iff_trim]
    exact filled
  have same : ((View.simple ⟨site.settings.primary, value, sensitive, kind⟩).compile
      site.settings).pattern = ((View.simple v).compile site.settings).pattern :=
    Query.compile_simple_congr (Pattern.layout_of_kind (v := v) splits typed)
  obtain ⟨w, shown, back⟩ := Query.compile_simple?_iff (v := v) rfl rfl splits named active
    (q := (Snapshot.simple ⟨site.settings.primary, value, sensitive, kind⟩).reread site.settings
      (.simple ⟨site.settings.primary, value, sensitive, kind⟩)) same
  rw [Snapshot.parameters_linked shown, ← List.all_eq_true]
  rw [Except.ok.injEq, Option.some.injEq, Parameters.ofPattern_inj]
  exact back

def shelf : Site where
  settings := ⟨.ofDeclarations [⟨"word", "Word", .text, false, Annotation.sensitive⟩,
    ⟨"lemma", "Lemma", .combobox, false, Annotation.sensitive⟩] [] 0 0, some "lemma", [], true, 5⟩
  basePath := "/search"
  maxLength := 4000

/-- Words of a declared annotation are shared. -/
theorem simple_shared_lemma : ∃ e,
    shelf.encode (.simple ⟨"lemma", " a\"b  [] c* ", true, .combobox⟩) = .ok e ∧
      e.truncated = false ∧ ∀ depth, ∃ d, shelf.decode depth e.url = .ok d ∧
        d.toSnapshot.parameters shelf.settings =
          (Snapshot.simple ⟨"lemma", " a\"b  [] c* ", true, .combobox⟩).parameters
            shelf.settings := by
  have base : Url.IsPath shelf.basePath.toList :=
    ⟨List.all_eq_true.mp (by decide), by decide, by decide⟩
  obtain ⟨e, coded, shared⟩ := @simple_shared_iff shelf " a\"b  [] c* " true .combobox base
    (by decide) (by decide +kernel) rfl (by decide)
  have whole : (shelf.encode (.simple ⟨"lemma", " a\"b  [] c* ", true, .combobox⟩)).toOption.map
      (·.truncated) = some false := by
    decide +kernel
  have primary : shelf.settings.primary = "lemma" := by decide
  rw [primary] at coded shared
  rw [coded] at whole
  have untruncated : e.truncated = false := Option.some.inj whole
  refine ⟨e, coded, untruncated, fun depth => ?_⟩
  obtain ⟨d, decoded, same⟩ := shared untruncated depth
  exact ⟨d, decoded, same.mpr (.inl (by decide +kernel))⟩

/-- A site for a corpus that declares no annotations, of which users are only warned. -/
def bareShelf : Site where
  settings := ⟨.empty, none, [], true, 5⟩
  basePath := "/search"
  maxLength := 4000

def hello : Snapshot := .simple ⟨bareShelf.settings.primary, "hello", false, .text⟩

def helloLink : Link where
  url := "/search/hits?first=0&number=50&patt=%22hello%22&interface=%7B%22form%22%3A%22search%22" ++
    "%2C%22patternMode%22%3A%22simple%22%7D"
  path := "/search/hits"
  params := [("first", "0"), ("number", "50"), ("patt", "\"hello\""),
    ("interface", Link.interfaceText (.search .simple))]
  truncated := false

/-- Where the searched annotation is not declared, the address of a search for one word asks for
any word. -/
theorem simple_shared_lost : Url.IsPath bareShelf.basePath.toList ∧
    isName isNameChar bareShelf.settings.primary.toList ∧
    (bareShelf.settings.corpus.kindOf bareShelf.settings.primary).splitsWords ∧
    ∃ e, bareShelf.encode hello = .ok e ∧ e.truncated = false ∧
      hello.parameters bareShelf.settings = .ok (some (.ofPattern (some "\"hello\""))) ∧
      ∀ depth, ∃ d, bareShelf.decode depth e.url = .ok d ∧
        d.toSnapshot.parameters bareShelf.settings = .ok (some (.ofPattern (some "[]"))) := by
  have base : Url.IsPath bareShelf.basePath.toList :=
    ⟨List.all_eq_true.mp (by decide), by decide, by decide⟩
  have coded : bareShelf.encode hello = .ok helloLink := by decide +kernel
  refine ⟨base, by decide, by decide, helloLink, coded, rfl, ?_, ?_⟩
  · rw [hello, Snapshot.parameters_simple]
    decide +kernel
  · intro depth
    have interface : Url.value? (paramsOf helloLink.url) "interface" =
        some (Link.interfaceText (.search .simple)) := by
      decide +kernel
    obtain ⟨d, decoded, shown⟩ :=
      exists_decode bareShelf depth (not_isTooDeep_of_interfaceText interface)
    refine ⟨d, decoded, ?_⟩
    rw [shown]
    decide +kernel

end Site

end Concordance
