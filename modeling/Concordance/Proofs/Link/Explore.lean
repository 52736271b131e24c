import Concordance.Proofs.Link.Stable
import Concordance.Proofs.Snapshot.Prepared

/-! An explore search that is shared by its address. The address does not tell what the form holds:
the view is read back from the pattern, the group key and the result view. -/

namespace Concordance

open Text (isName isNameChar)

/-! ### Views that come back -/

namespace View

/-- The slots that an n-gram view searches for. Those that it lacks are empty. -/
def searched (group : String) (size : Int) (slots : List Slot) : List Slot :=
  chosen size slots ++
    List.replicate (size - (chosen size slots).length).toNat ⟨group, "", false⟩

/-- An explore view as it comes back from its address: just as it was, but for the slots of an n-gram
view, which lose the blanks around their values. Those that constrain nothing are empty. -/
def restored (s : Settings) : View → View
  | ngram group size _ slots =>
    ngram group size s.ngramMaxSize ((searched group size slots).map (·.restored s.corpus group))
  | v => v

/-- Explore views that an address can say. -/
inductive IsShareable (s : Settings) : View → Prop
  | frequency {id : String} (declared : s.corpus.declares id)
      (named : isName isNameChar id.toList) :
      IsShareable s (.frequency id)
  | ngram {group : String} {size maxSize : Int} {slots : List Slot}
      (declared : s.corpus.declares group) (named : isName isNameChar group.toList)
      (positive : 1 ≤ size) (few : size ≤ s.ngramMaxSize)
      (slots_named : ∀ slot ∈ slots, isName isNameChar slot.id.toList)
      (slots_typed : ∀ slot ∈ slots, s.corpus.kindOf slot.id ≠ .pos) :
      IsShareable s (.ngram group size maxSize slots)
  | corpora {groupBy displayMode : Option String} (plain : ∀ key ∈ groupBy, Group.IsPlain key)
      (displayed : displayMode ≠ some "") : IsShareable s (.corpora groupBy displayMode)

variable {s : Settings} {v : View} {group : String} {size maxSize : Int} {slots : List Slot}

theorem length_searched (positive : 0 ≤ size) :
    ((searched group size slots).length : Int) = size := by
  have most : (chosen size slots).length ≤ size.toNat := by
    rw [chosen, if_pos positive]
    exact List.length_take_le _ _
  rw [searched, List.length_append, List.length_replicate]
  omega

theorem ngramTokens_searched (corpus : Corpus) (group : String) :
    ngramTokens corpus size slots =
      (Pattern.ofSlots corpus (searched group size slots)).tokens := by
  rw [ngramTokens, Pattern.ofSlots, searched, List.map_append, List.map_replicate, List.length_map]
  rfl

theorem compile_searched : ((ngram group size maxSize slots).compile s).pattern =
    Text.nonEmpty? (some ((Pattern.ofSlots s.corpus (searched group size slots)).text none)) := by
  rw [compile, ngramTokens_searched s.corpus group]
  rfl

theorem isKept_searched (slots_named : ∀ slot ∈ slots, isName isNameChar slot.id.toList)
    (slots_typed : ∀ slot ∈ slots, s.corpus.kindOf slot.id ≠ .pos) :
    ∀ slot ∈ searched group size slots, slot.IsKept s.corpus := by
  intro slot member
  rcases List.mem_append.mp member with own | lacking
  · have given : slot ∈ slots := by
      rw [chosen] at own
      split at own <;> exact List.mem_of_mem_take own
    exact ⟨fun _ => slots_named slot given, fun pos => absurd pos (slots_typed slot given)⟩
  · rw [List.eq_of_mem_replicate lacking]
    exact .blank s.corpus group

theorem IsShareable.explore (shareable : v.IsShareable s) : v.form = .explore := by
  cases shareable <;> rfl

theorem IsShareable.plain (shareable : v.IsShareable s) :
    ∀ key ∈ (v.compile s).groupBy, Group.IsPlain key := by
  intro key member
  cases shareable with
  | frequency declared named =>
    rw [List.mem_singleton.mp member]
    exact Group.isPlain_hitKey named
  | ngram declared named =>
    rw [List.mem_singleton.mp member]
    exact Group.isPlain_hitKey named
  | corpora plain =>
    have given : key ∈ Text.nonEmpty? _ := Option.mem_toList.mp member
    exact plain key (Option.filter_eq_some_iff.mp given).1

theorem IsShareable.compile_restored (shareable : v.IsShareable s) :
    ((v.restored s).compile s).pattern = (v.compile s).pattern := by
  cases shareable with
  | frequency | corpora => rfl
  | @ngram group size maxSize slots declared named positive =>
    have length : (((searched group size slots).map (·.restored s.corpus group)).length : Int) =
        size := by
      rw [List.length_map, length_searched (by omega)]
    have compiled := compile_ngram (s := s) group s.ngramMaxSize
      ((searched group size slots).map (·.restored s.corpus group))
    rw [length, Pattern.ofSlots_restored] at compiled
    exact compiled.trans compile_searched.symm

end View

/-! ### What is read back -/

namespace Query

variable {q : Query} {s : Settings} {id : String}

theorem groups_of_plain {groupBy : List String} (plain : ∀ key ∈ groupBy, Group.IsPlain key)
    (groups : q.groups = .ofKeys groupBy [] false) :
    q.groups.groupBy = groupBy ∧ q.groups.contextKeys = [] := by
  have noContext : ∀ key ∈ groupBy, Group.isContext key = false := fun key member =>
    (plain key member).noContext
  have noContextWord : "context" ∉ groupBy := fun member => (plain _ member).noContextWord rfl
  rw [groups]
  exact ⟨GroupSpec.groupBy_ofKeys false noContext noContextWord nofun,
    GroupSpec.contextKeys_ofKeys false noContext noContextWord nofun⟩

theorem groupedId_hitKey (declared : s.corpus.declares id)
    (groupBy : q.groups.groupBy = [Group.hitKey id]) : groupedId q s = some id := by
  rw [groupedId, groupBy]
  simp only [Group.hitName?_hitKey, Option.filter_some, declared, if_true]

theorem frequency?_hitKey (pattern : q.pattern = some "[]") (single : q.groups.keys.length = 1)
    (declared : s.corpus.declares id) (named : isName isNameChar id.toList)
    (groupBy : q.groups.groupBy = [Group.hitKey id]) : q.frequency? s = some (.frequency id) := by
  have filled : id.isEmpty = false := Pattern.Reader.isEmpty_of_isName named
  rw [frequency?, if_neg (by simp [pattern, single]), groupedId_hitKey declared groupBy]
  simp only [Option.filter_some, filled, Bool.not_false, if_true, Option.map_some]

theorem corpora?_docs (viewed : q.viewed = some docs) (pattern : q.pattern = none)
    (contextKeys : q.groups.contextKeys = []) :
    q.corpora? = some (.corpora q.groups.groupBy.head? q.displayMode) := by
  have given : q.hasPattern = false := by rw [hasPattern, pattern]; rfl
  rw [corpora?, if_neg (by simp [viewed, docs, given, contextKeys])]

theorem ngram?_searched {size maxSize : Int} {slots : List Slot}
    (declared : s.corpus.declares id) (positive : 1 ≤ size) (few : size ≤ s.ngramMaxSize)
    (slots_named : ∀ slot ∈ slots, isName isNameChar slot.id.toList)
    (slots_typed : ∀ slot ∈ slots, s.corpus.kindOf slot.id ≠ .pos)
    (pattern : q.pattern = ((View.ngram id size maxSize slots).compile s).pattern)
    (groupBy : q.groups.groupBy = [Group.hitKey id]) (contextKeys : q.groups.contextKeys = []) :
    q.ngram? s = some ((View.ngram id size maxSize slots).restored s) := by
  have kept : ∀ slot ∈ View.searched id size slots, slot.IsKept s.corpus :=
    View.isKept_searched slots_named slots_typed
  have length : ((View.searched id size slots).length : Int) = size :=
    View.length_searched (by omega)
  have filled : View.searched id size slots ≠ [] := by
    intro empty
    rw [empty, List.length_nil] at length
    omega
  have parsed := parsed_ofSlots kept filled (pattern.trans View.compile_searched)
  have shown := ngram?_ofSlots kept
    ⟨contextKeys, groupedId_hitKey declared groupBy, filled, by omega⟩ parsed
  rwa [length] at shown

end Query

/-- What an explore view is submitted as, with nothing else set. -/
def Snapshot.submission (s : Settings) (v : View) : Snapshot :=
  { ofView v with
    viewed := (v.compile s).viewed
    results := { ResultSettings.initial with
      groupBy := (v.compile s).groupBy, displayMode := v.displayMode? } }

namespace Snapshot

variable {s : Settings} {v : View}

theorem prepare_ofView (explore : v.form = .explore) :
    (ofView v).prepare s = submission s v := prepare_explore rfl explore

theorem isRead_submission (shareable : v.IsShareable s) : (submission s v).IsRead s v where
  viewed := by
    cases shareable with
    | frequency | ngram => exact .inl rfl
    | corpora => exact .inr rfl
  view := rfl
  globals := GlobalSettings.isRead_initial
  results :=
    { keys := GroupSpec.isKey_ofKeys false shareable.plain nofun
      groupBy := fun key member => (shareable.plain key member).noContext
      contextKeys := nofun
      caseSensitive := nofun
      sort := nofun
      viewGroup := nofun
      page := Int.le_refl 0
      displayMode := by
        cases shareable with
        | frequency | ngram => nofun
        | corpora plain displayed => exact displayed }
  enabled := by
    cases shareable <;> exact nofun

theorem shown_submission (shareable : v.IsShareable s) :
    ((submission s v).reread s v).shown s v.mode = v.restored s := by
  have pattern : ((submission s v).reread s v).pattern = (v.compile s).pattern := rfl
  have groups : ((submission s v).reread s v).groups = .ofKeys (v.compile s).groupBy [] false := rfl
  have viewed : ((submission s v).reread s v).viewed = (v.compile s).viewed := rfl
  have displayed : ((submission s v).reread s v).displayMode = v.displayMode? := rfl
  obtain ⟨groupBy, contextKeys⟩ := Query.groups_of_plain shareable.plain groups
  generalize (submission s v).reread s v = q at *
  cases shareable with
  | frequency declared named =>
    have single : q.groups.keys.length = 1 := by rw [groups]; rfl
    rw [View.mode, Query.shown, Query.frequency?_hitKey pattern single declared named groupBy]
    rfl
  | ngram declared named positive few slots_named slots_typed =>
    rw [View.mode, Query.shown, Query.ngram?_searched declared positive few slots_named slots_typed
      pattern groupBy contextKeys]
    rfl
  | @corpora key displayMode plain =>
    have first : ((View.corpora key displayMode).compile s).groupBy.head? = key := by
      have filled : key ≠ some "" := fun same => (plain "" same).named rfl
      rw [View.compile, Text.nonEmpty?_of_ne filled, Option.head?_toList]
    rw [View.mode, Query.shown, Query.corpora?_docs viewed pattern contextKeys, groupBy, displayed,
      first]
    rfl

theorem parameters_linked_submission (shareable : v.IsShareable s) :
    ((submission s v).linked s v).parameters s = (submission s v).parameters s := by
  have read := isRead_submission shareable
  have noContextWord : "context" ∉ (submission s v).results.groupBy := fun member =>
    (shareable.plain _ member).noContextWord rfl
  have filters : (submission s v).filters = Filter.decode none s.corpus.fields := rfl
  have pattern : ((((submission s v).reread s v).shown s v.mode).compile s).pattern =
      (v.compile s).pattern := by
    rw [shown_submission shareable, shareable.compile_restored]
  have valid : (submission s v).globals.validate = .ok () := rfl
  rw [parameters_linked_of_valid read valid, request_linked read noContextWord filters pattern,
    parameters_of_valid read.isSome_viewed read.view valid]
  rfl

end Snapshot

namespace Site

variable {site : Site} {v : View}

/-- An explore view that is submitted has an address, and unless that is too long the view comes
back from it, and searches for the same. -/
theorem explore_shared (base : Url.IsPath site.basePath.toList)
    (shareable : v.IsShareable site.settings) :
    ∃ e, site.encode ((Snapshot.ofView v).prepare site.settings) = .ok e ∧
      (e.truncated = false → ∀ depth, ∃ d, site.decode depth e.url = .ok d ∧
        d.toSnapshot.view = some (v.restored site.settings) ∧
        d.toSnapshot.mode = ((Snapshot.ofView v).prepare site.settings).mode ∧
        d.toSnapshot.parameters site.settings =
          ((Snapshot.ofView v).prepare site.settings).parameters site.settings) := by
  rw [Snapshot.prepare_ofView shareable.explore]
  have read := Snapshot.isRead_submission shareable
  obtain ⟨e, coded⟩ := exists_encode_initial site read.isSome_viewed read.view rfl rfl
  refine ⟨e, coded, fun whole depth => ?_⟩
  obtain ⟨ps, links⟩ := exists_links coded
  obtain ⟨d, decoded, linked⟩ :=
    toSnapshot_links base links (by rw [whole]; exact Bool.false_ne_true) read depth
  refine ⟨d, decoded, ?_⟩
  rw [linked]
  have view : ((Snapshot.submission site.settings v).linked site.settings v).view =
      some (v.restored site.settings) := congrArg some (Snapshot.shown_submission shareable)
  refine ⟨view, ?_, Snapshot.parameters_linked_submission shareable⟩
  rw [Snapshot.mode, Snapshot.mode, view, read.view]
  cases shareable <;> rfl

def readingRoom : Site where
  settings := ⟨.ofDeclarations [⟨"word", "Word", .text, false, Annotation.sensitive⟩,
    ⟨"num", "Number", .select, false, Annotation.sensitive⟩] [] 0 0, none, [], true, 5⟩
  basePath := "/corpus/search"
  maxLength := 4000

def fourWords : View :=
  .ngram "num" 4 7
    [⟨"word", "  New  York* ", true⟩, ⟨"num", " a.b|\"c", false⟩, ⟨"word", " * ", true⟩]

theorem explore_shared_fourWords : ∃ e,
    readingRoom.encode ((Snapshot.ofView fourWords).prepare readingRoom.settings) = .ok e ∧
      e.truncated = false ∧ ∀ depth, ∃ d, readingRoom.decode depth e.url = .ok d ∧
        d.toSnapshot.view =
          some (.ngram "num" 4 5 [⟨"word", "New  York*", true⟩, ⟨"num", "a.b|\"c", false⟩,
            ⟨"num", "", false⟩, ⟨"num", "", false⟩]) ∧
        d.toSnapshot.parameters readingRoom.settings =
          ((Snapshot.ofView fourWords).prepare readingRoom.settings).parameters
            readingRoom.settings := by
  have base : Url.IsPath readingRoom.basePath.toList :=
    ⟨List.all_eq_true.mp (by decide), by decide, by decide⟩
  have shareable : fourWords.IsShareable readingRoom.settings :=
    .ngram (by decide +kernel) (by decide) (by decide) (by decide) (by decide) (by decide +kernel)
  have restored : fourWords.restored readingRoom.settings = .ngram "num" 4 5
      [⟨"word", "New  York*", true⟩, ⟨"num", "a.b|\"c", false⟩, ⟨"num", "", false⟩,
        ⟨"num", "", false⟩] := by
    decide +kernel
  obtain ⟨e, coded, shared⟩ := explore_shared base shareable
  have whole : (readingRoom.encode ((Snapshot.ofView fourWords).prepare
      readingRoom.settings)).toOption.map (·.truncated) = some false := by
    decide +kernel
  rw [coded] at whole
  refine ⟨e, coded, Option.some.inj whole, fun depth => ?_⟩
  obtain ⟨d, decoded, view, -, parameters⟩ := shared (Option.some.inj whole) depth
  exact ⟨d, decoded, restored ▸ view, parameters⟩

end Site

end Concordance
