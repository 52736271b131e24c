import Concordance.Proofs.Pattern.Condition
import Concordance.Proofs.Pattern.Repetition

/-! Reading the text of a pattern gives the pattern back, its chains nested to the left. -/

namespace Concordance

open Text (skip isName)
open Pattern.Reader (isTagChar)

def Token.isWritable (t : Token) : Bool :=
  t.condition.all Condition.isWritable && !(t.optional && t.repeats.isSome) &&
    t.repeats.all Repeat.isWritable &&
    t.leadingTag.all (fun name => isName isTagChar name.toList) &&
    t.trailingTag.all (fun name => isName isTagChar name.toList)

/-- A pattern that can be written: at least one token, and names, comparisons, counts and values
as the language has them. -/
def Pattern.isWritable (p : Pattern) : Bool :=
  !p.tokens.isEmpty && p.tokens.all Token.isWritable &&
    p.within.all fun name => isName isTagChar name.toList

def Token.isFramed (t : Token) : Bool :=
  !(t.optional && t.repeats.isSome) && t.repeats.all Repeat.isWritable &&
    t.leadingTag.all (fun name => isName isTagChar name.toList) &&
    t.trailingTag.all (fun name => isName isTagChar name.toList)

/-- A token that can be written where a bare literal constrains `primary`. A bare literal does not
show the name of its annotation, which may be any text. -/
def Token.isWritableUnder (primary : Option String) (t : Token) : Bool :=
  t.isFramed &&
    match t.bare? primary with
    | some value => Quoted.isRegular value.toList
    | none => t.condition.all Condition.isWritable

def Pattern.isWritableUnder (primary : Option String) (p : Pattern) : Bool :=
  !p.tokens.isEmpty && p.tokens.all (Token.isWritableUnder primary) &&
    p.within.all fun name => isName isTagChar name.toList

namespace Pattern.Reader

theorem isTagChar_delimiter {c : Char} (h : c = '>' ∨ c = '/') : isTagChar c = false := by
  rcases h with rfl | rfl <;> decide

theorem name?_tag {name : String} (shape : isName isTagChar name.toList) {c : Char}
    (stop : c = '>' ∨ c = '/') (rest : List Char) :
    Text.name? isTagChar (skip (name.toList ++ c :: rest)) = some (name.toList, c :: rest) := by
  obtain ⟨x, xs, text, start⟩ := Text.isName_head shape
  have skipped : skip (name.toList ++ c :: rest) = name.toList ++ c :: rest :=
    Text.skip_append_of_head _ (by rw [text]; rfl) (Text.isSpacing_of_isNameStart start)
  rw [skipped]
  exact Text.name?_append shape _ (by intro d same; cases same; exact isTagChar_delimiter stop)

theorem tag?_append {name : String} (shape : isName isTagChar name.toList) (rest : List Char) :
    tag? (name.toList ++ '>' :: rest) = some (name, rest) := by
  simp [tag?, name?_tag shape (.inl rfl) rest, Text.skip_cons, Text.isSpacing]

theorem isEmpty_of_isName {more : Char → Bool} {name : String} (shape : isName more name.toList) :
    name.isEmpty = false := by
  obtain ⟨x, xs, text, -⟩ := Text.isName_head shape
  rw [← Bool.not_eq_true, String.isEmpty_iff]
  intro same
  subst same
  simp at text

def StartsBody (rest : List Char) : Prop := ∃ c cs, rest = c :: cs ∧ (c = '[' ∨ c = '"')

theorem leading?_append {t : Token} (h : t.isFramed) {rest : List Char} (body : StartsBody rest) :
    leading? (t.leading ++ rest) = some (t.leadingTag, rest) := by
  simp only [Token.isFramed, Bool.and_eq_true] at h
  have shape := h.1.2
  cases tag : t.leadingTag with
  | none =>
    obtain ⟨c, cs, rfl, rfl | rfl⟩ := body <;> simp [Token.leading, tag, leading?]
  | some name =>
    rw [tag] at shape
    have nonempty := isEmpty_of_isName shape
    simp [Token.leading, tag, nonempty, leading?, tag?_append shape]

structure Separate (rest : List Char) : Prop where
  noMark : StartsNoMark rest
  noTag : ∀ cs, skip rest ≠ '<' :: '/' :: cs

theorem trailing?_append {t : Token} (h : t.isFramed) {rest : List Char} (apart : Separate rest) :
    ∃ r, trailing? (skip (t.trailing ++ rest)) = some (t.trailingTag, r) ∧ skip r = skip rest := by
  simp only [Token.isFramed, Bool.and_eq_true] at h
  have shape := h.2
  cases tag : t.trailingTag with
  | none =>
    refine ⟨skip rest, ?_, Text.skip_skip rest⟩
    simp only [Token.trailing, tag, List.nil_append]
    rw [trailing?]
    exact apart.noTag
  | some name =>
    rw [tag] at shape
    have nonempty := isEmpty_of_isName shape
    refine ⟨rest, ?_, rfl⟩
    simp [Token.trailing, tag, nonempty, trailing?, Text.skip_cons, Text.isSpacing,
      tag?_append shape]

theorem skip_repeat (r : Repeat) (rest : List Char) :
    skip (r.render ++ rest) = r.render ++ rest := by
  have head : ∃ c, r.render.head? = some c ∧ Text.isSpacing c = false := by
    unfold Repeat.render
    split
    · split
      · exact ⟨'*', rfl, rfl⟩
      · split
        · exact ⟨'+', rfl, rfl⟩
        · exact ⟨'\x7b', rfl, rfl⟩
    · split <;> exact ⟨'\x7b', rfl, rfl⟩
  obtain ⟨c, head, spacing⟩ := head
  exact Text.skip_append_of_head rest head spacing

theorem mark?_append {t : Token} (h : t.isFramed) {rest : List Char} (free : StartsNoMark rest) :
    ∃ k r, mark? (skip (t.mark ++ rest)) = some (k, r) ∧ skip r = skip rest ∧
      k.settle = .ok (t.optional, t.repeats) := by
  simp only [Token.isFramed, Bool.and_eq_true, Bool.not_eq_true'] at h
  have exclusive := h.1.1.1
  have bounds := h.1.1.2
  cases optional : t.optional with
  | true =>
    have single : t.repeats = none := by
      simpa [optional] using exclusive
    refine ⟨.optional, rest, ?_, rfl, by rw [single]; rfl⟩
    simp [Token.mark, optional, Text.skip_cons, Text.isSpacing, mark?]
  | false =>
    cases repeats : t.repeats with
    | none =>
      refine ⟨.none, skip rest, ?_, Text.skip_skip rest, rfl⟩
      simpa [Token.mark, optional, repeats] using mark?_none free
    | some r =>
      rw [repeats] at bounds
      obtain ⟨k, read, settled⟩ := mark?_repeat (r := r) bounds rest
      refine ⟨k, rest, ?_, rfl, settled⟩
      simp [Token.mark, optional, repeats, skip_repeat, read]

theorem bare?_eq_some {primary : Option String} {t : Token} {value : String}
    (h : t.bare? primary = some value) :
    ∃ name, primary = some name ∧ t.condition = some (.attribute ⟨name, "=", value⟩) := by
  unfold Token.bare? at h
  split at h
  · next name a condition =>
    split at h
    · next fits =>
      obtain ⟨hname, hoperator, -⟩ := fits
      cases h
      exact ⟨name, rfl, by rw [condition, ← hname, ← hoperator]⟩
    · exact absurd h nofun
  · exact absurd h nofun

theorem isWritableUnder_of_isWritable {t : Token} (h : t.isWritable) (primary : Option String) :
    t.isWritableUnder primary := by
  simp only [Token.isWritable, Bool.and_eq_true] at h
  obtain ⟨⟨⟨⟨written, exclusive⟩, bounds⟩, leading⟩, trailing⟩ := h
  have framed : t.isFramed := by
    simp only [Token.isFramed, Bool.and_eq_true]
    exact ⟨⟨⟨exclusive, bounds⟩, leading⟩, trailing⟩
  rw [Token.isWritableUnder, framed, Bool.true_and]
  split
  · next value bare =>
    obtain ⟨name, -, condition⟩ := bare?_eq_some bare
    rw [condition] at written
    simp only [Option.all_some, Condition.isWritable, Attribute.isWritable,
      Bool.and_eq_true] at written
    exact written.2
  · exact written

theorem startsBody_body (primary : Option String) (t : Token) (rest : List Char) :
    StartsBody (t.body primary ++ rest) := by
  unfold Token.body
  split
  · exact ⟨'"', _, rfl, .inr rfl⟩
  · exact ⟨'[', _, rfl, .inl rfl⟩
  · exact ⟨'[', _, rfl, .inl rfl⟩

theorem body?_append {primary : Option String} {default : String}
    (agrees : ∀ name ∈ primary, default = name) {t : Token} (h : t.isWritableUnder primary)
    (rest : List Char) :
    body? default (t.body primary ++ rest) = some (t.leftNested.condition, rest) := by
  simp only [Token.isWritableUnder, Bool.and_eq_true] at h
  have writable := h.2
  cases bare : t.bare? primary with
  | some value =>
    obtain ⟨name, rfl, condition⟩ := bare?_eq_some bare
    cases agrees name rfl
    have regular : Quoted.isRegular value.toList := by simpa [bare] using writable
    have read := Quoted.literal?_quote rest regular
    rw [Quoted.quote_eq] at read
    simp only [List.cons_append, List.append_assoc, List.nil_append] at read
    simp [Token.body, bare, Quoted.quote_eq, body?, read, Token.leftNested, condition,
      Condition.leftNested]
  | none =>
    rw [bare] at writable
    cases condition : t.condition with
    | none =>
      simp [Token.body, bare, condition, body?, Text.skip_cons, Text.isSpacing, Token.leftNested]
    | some c =>
      rw [condition] at writable
      have writable : c.isWritable := writable
      obtain ⟨x, xs, text, spacing, noBracket⟩ := Condition.render_head writable
      have read := condition?_render writable (']' :: rest) (by rintro (_ | _) <;> rfl)
      have skipped : skip (c.render ++ ']' :: rest) = c.render ++ ']' :: rest :=
        Text.skip_append_of_head _ (by rw [text]; rfl) spacing
      rw [text] at read skipped
      simp only [List.cons_append] at read skipped
      simp [Token.body, bare, condition, body?, text, skipped, noBracket, read, Text.skip_cons,
        Text.isSpacing, Token.leftNested]

theorem skip_body (primary : Option String) (t : Token) (rest : List Char) :
    skip (t.body primary ++ rest) = t.body primary ++ rest := by
  obtain ⟨c, cs, text, start⟩ := startsBody_body primary t rest
  rw [text]
  rcases start with rfl | rfl <;> rfl

theorem startsNoMark_trailing {t : Token} {rest : List Char} (free : StartsNoMark rest) :
    StartsNoMark (t.trailing ++ rest) := by
  unfold Token.trailing
  split
  · split
    · exact free
    · intro c same
      cases same
      decide
  · exact free

theorem token?_append {primary : Option String} {default : String}
    (agrees : ∀ name ∈ primary, default = name) {t : Token} (h : t.isWritableUnder primary)
    {rest : List Char} (apart : Separate rest) :
    ∃ d r, token? default (t.render primary ++ rest) = some (d, r) ∧ skip r = skip rest ∧
      d.settle = .ok t.leftNested := by
  have framed : t.isFramed := (Bool.and_eq_true _ _ ▸ h).1
  have bodyStarts := startsBody_body primary t (t.mark ++ (t.trailing ++ rest))
  have tagged := leading?_append framed bodyStarts
  have body := body?_append agrees h (t.mark ++ (t.trailing ++ rest))
  obtain ⟨k, r, mark, same, settled⟩ := mark?_append framed (startsNoMark_trailing apart.noMark)
  obtain ⟨r', trailing, same'⟩ := trailing?_append framed apart
  refine ⟨⟨t.leadingTag, t.leftNested.condition, k, t.trailingTag⟩, r', ?_, same', ?_⟩
  · rw [← same] at trailing
    simp [token?, Token.render, tagged, skip_body, body, mark, trailing]
  · simp [Draft.settle, settled, bind, Except.bind, Token.leftNested]

def StartsToken (rest : List Char) : Prop :=
  StartsBody rest ∨ ∃ c cs, rest = '<' :: c :: cs ∧ Text.isNameStart c

theorem startsToken_render (primary : Option String) {t : Token} (h : t.isFramed)
    (rest : List Char) : StartsToken (t.render primary ++ rest) := by
  simp only [Token.isFramed, Bool.and_eq_true] at h
  have shape := h.1.2
  have text : t.render primary ++ rest =
      t.leading ++ (t.body primary ++ (t.mark ++ (t.trailing ++ rest))) := by
    simp [Token.render]
  rw [text]
  cases tag : t.leadingTag with
  | none =>
    refine .inl ?_
    simpa [Token.leading, tag] using startsBody_body primary t _
  | some name =>
    rw [tag] at shape
    obtain ⟨c, cs, eq, start⟩ := Text.isName_head shape
    refine .inr ⟨c, cs ++ '>' :: (t.body primary ++ (t.mark ++ (t.trailing ++ rest))), ?_, start⟩
    simp [Token.leading, tag, isEmpty_of_isName shape, eq]

theorem StartsToken.skip_eq {rest : List Char} (h : StartsToken rest) :
    ∃ c cs, skip rest = c :: cs ∧ rest = c :: cs ∧ c ≠ 'w' := by
  rcases h with ⟨c, cs, rfl, rfl | rfl⟩ | ⟨c, cs, rfl, -⟩ <;> exact ⟨_, _, rfl, rfl, by decide⟩

theorem StartsToken.separate {rest : List Char} (h : StartsToken rest) : Separate rest := by
  obtain ⟨c, cs, skipped, rfl, -⟩ := h.skip_eq
  constructor
  · intro d member
    rw [skipped] at member
    cases member
    rcases h with ⟨c', cs', text, rfl | rfl⟩ | ⟨c', cs', text, -⟩ <;> cases text <;> decide
  · intro ds closing
    rw [skipped] at closing
    obtain ⟨rfl, rfl⟩ := List.cons.inj closing
    rcases h with ⟨c', cs', text, rfl | rfl⟩ | ⟨c', cs', text, start⟩
    · cases text
    · cases text
    · cases text
      exact absurd start (by decide)

theorem Separate.space {rest : List Char} (h : Separate rest) : Separate (' ' :: rest) := by
  constructor
  · rw [StartsNoMark, Text.skip_space]
    exact h.noMark
  · rw [Text.skip_space]
    exact h.noTag

def contextText : Option String → List Char
  | some name => [' ', 'w', 'i', 't', 'h', 'i', 'n', ' ', '<'] ++ name.toList ++ ['/', '>']
  | none => []

theorem separate_contextText (context : Option String) : Separate (contextText context) := by
  cases context with
  | none => exact ⟨nofun, nofun⟩
  | some name => exact Separate.space ⟨by intro c same; cases same; decide, nofun⟩

theorem skip_contextText (name : String) :
    skip (contextText (some name)) =
      'w' :: 'i' :: 't' :: 'h' :: 'i' :: 'n' :: ' ' :: '<' :: (name.toList ++ ['/', '>']) := by
  simp only [contextText, List.cons_append, List.nil_append, Text.skip_space]
  exact Text.skip_cons _ rfl

theorem within?_contextText (name : String) (shape : isName isTagChar name.toList) :
    within? (skip (contextText (some name))) = some (name, []) := by
  have read := name?_tag shape (.inr rfl) ['>']
  rw [skip_contextText]
  simp [within?, Text.skip_cons, Text.isSpacing, read]

theorem drafts?_last {default : String} {context : Option String}
    (shape : context.all fun name => isName isTagChar name.toList) {cs r : List Char} {d : Draft}
    (read : token? default cs = some (d, r)) (same : skip r = skip (contextText context))
    (n : Nat) : drafts? default (n + 1) cs = some ([d], context) := by
  cases context with
  | none =>
    have ended : skip r = [] := same
    simp [drafts?, read, ended]
  | some name =>
    have read' := within?_contextText name shape
    rw [skip_contextText] at same read'
    simp [drafts?, read, same, read']

theorem drafts?_more {default : String} {cs r rest : List Char} {d : Draft}
    (read : token? default cs = some (d, r)) (same : skip r = rest) (next : StartsToken rest)
    (n : Nat) : drafts? default (n + 1) cs =
      (drafts? default n rest).map fun (ds, context) => (d :: ds, context) := by
  obtain ⟨c, tail, -, text, notW⟩ := next.skip_eq
  rw [drafts?]
  simp only [read, same, Option.bind_eq_bind, Option.bind_some]
  rw [text]
  split
  · next h => exact absurd h nofun
  · next h => exact absurd (List.cons.inj h).1 notW
  · cases drafts? default n (c :: tail) <;> rfl

theorem drafts?_renderAll {primary : Option String} {default : String}
    (agrees : ∀ name ∈ primary, default = name) (context : Option String)
    (shape : context.all fun name => isName isTagChar name.toList) {t : Token} {ts : List Token}
    (writable : ∀ u ∈ t :: ts, u.isWritableUnder primary) {n : Nat} (bound : ts.length < n) :
    ∃ ds, drafts? default n (Token.renderAll primary (t :: ts) ++ contextText context) =
        some (ds, context) ∧
      settle ds = .ok ((t :: ts).map Token.leftNested) := by
  obtain ⟨k, rfl⟩ : ∃ k, n = k + 1 := ⟨n - 1, by omega⟩
  have first := writable t (by simp)
  induction ts generalizing t k with
  | nil =>
    obtain ⟨d, r, read, same, settled⟩ :=
      token?_append agrees first (separate_contextText context)
    exact ⟨[d], drafts?_last shape read same k, by simp [settle, settled, bind, Except.bind]⟩
  | cons u ts ih =>
    rw [List.length_cons] at bound
    have second := writable u (by simp)
    have framed : u.isFramed := (Bool.and_eq_true _ _ ▸ second).1
    obtain ⟨i, rfl⟩ : ∃ i, k = i + 1 := ⟨k - 1, by omega⟩
    obtain ⟨ds, rest, settledRest⟩ :=
      ih (t := u) (fun v member => writable v (List.mem_cons_of_mem t member)) i (by omega) second
    have next : StartsToken (Token.renderAll primary (u :: ts) ++ contextText context) := by
      cases ts with
      | nil => exact startsToken_render primary framed _
      | cons v vs =>
        simp only [Token.renderAll, List.append_assoc]
        exact startsToken_render primary framed _
    have step (gap : List Char) (h : gap = [] ∨ gap = [' ']) :
        ∃ d r, token? default (t.render primary ++
            (gap ++ (Token.renderAll primary (u :: ts) ++ contextText context))) = some (d, r) ∧
          skip r = Token.renderAll primary (u :: ts) ++ contextText context ∧
          d.settle = .ok t.leftNested := by
      obtain ⟨c, cs, skipped, text, -⟩ := next.skip_eq
      rcases h with rfl | rfl
      · obtain ⟨d, r, read, same, settled⟩ := token?_append agrees first next.separate
        exact ⟨d, r, read, by rw [same, skipped, text], settled⟩
      · obtain ⟨d, r, read, same, settled⟩ := token?_append agrees first next.separate.space
        exact ⟨d, r, read, by rw [same, Text.skip_space, skipped, text], settled⟩
    obtain ⟨d, r, read, same, settled⟩ := step
      (if (t.bare? primary).isSome || (u.bare? primary).isSome then [' '] else [])
      (by split <;> simp)
    refine ⟨d :: ds, ?_, ?_⟩
    · simp only [Token.renderAll, List.append_assoc] at read same next rest ⊢
      rw [drafts?_more read same next, rest]
      rfl
    · simp [settle, settled, settledRest, bind, Except.bind]

end Pattern.Reader

open Text (Solid isBlank)
open Pattern.Reader (contextText)

namespace Token

theorem solid_repeat (r : Repeat) : Solid isBlank r.render := by
  unfold Repeat.render
  split
  · split
    · exact .single (by decide)
    · split
      · exact .single (by decide)
      · simpa using Solid.between (a := '\x7b') (b := '\x7d') (by decide) (by decide)
          (Numeral.signed r.least ++ [','])
  · next most _ =>
    split
    · exact .between (by decide) (by decide) _
    · simpa using Solid.between (a := '\x7b') (b := '\x7d') (by decide) (by decide)
        (Numeral.signed r.least ++ ',' :: Numeral.signed most)

theorem solid_tag (opening name : List Char) : Solid isBlank ('<' :: (opening ++ name) ++ ['>']) :=
  .between (by decide) (by decide) _

theorem solid_render (primary : Option String) (t : Token) : Solid isBlank (t.render primary) := by
  have leading : Solid isBlank t.leading := by
    unfold Token.leading
    split
    · split
      · exact .nil
      · exact solid_tag [] _
    · exact .nil
  have body : Solid isBlank (t.body primary) := by
    unfold Token.body
    split
    · exact .between (by decide) (by decide) _
    · exact .between (by decide) (by decide) _
    · exact .between (by decide) (by decide) []
  have mark : Solid isBlank t.mark := by
    unfold Token.mark
    split
    · exact .single (by decide)
    · cases t.repeats with
      | none => exact .nil
      | some r => exact solid_repeat r
  have trailing : Solid isBlank t.trailing := by
    unfold Token.trailing
    split
    · split
      · exact .nil
      · exact solid_tag ['/'] _
    · exact .nil
  exact ((leading.append body).append mark).append trailing

theorem render_ne_nil (primary : Option String) (t : Token) : t.render primary ≠ [] := by
  obtain ⟨c, cs, text, -⟩ := Pattern.Reader.startsBody_body primary t []
  rw [List.append_nil] at text
  simp [Token.render, text]

theorem solid_renderAll (primary : Option String) (t : Token) (ts : List Token) :
    Solid isBlank (renderAll primary (t :: ts)) ∧
      ts.length < (renderAll primary (t :: ts)).length := by
  induction ts generalizing t with
  | nil => exact ⟨t.solid_render primary, List.length_pos_iff.mpr (t.render_ne_nil primary)⟩
  | cons u ts ih =>
    have nonempty := List.length_pos_iff.mpr (t.render_ne_nil primary)
    constructor
    · refine Solid.surround (t.solid_render primary) (ih u).1 (t.render_ne_nil primary) ?_ _
      exact List.ne_nil_of_length_pos (Nat.zero_lt_of_lt (ih u).2)
    · have shorter := (ih u).2
      simp only [renderAll, List.length_append, List.length_cons] at shorter nonempty ⊢
      omega

end Token

namespace Pattern

theorem render_eq {p : Pattern} (nonempty : p.tokens ≠ [])
    (shape : p.within.all fun name => isName isTagChar name.toList) (primary : Option String) :
    p.render primary = Token.renderAll primary p.tokens ++ contextText p.within := by
  obtain ⟨tokens, context⟩ := p
  obtain ⟨t, ts, rfl⟩ := List.exists_cons_of_ne_nil nonempty
  have filled : Token.renderAll primary (t :: ts) ≠ [] :=
    List.ne_nil_of_length_pos (Nat.zero_lt_of_lt (Token.solid_renderAll primary t ts).2)
  cases context with
  | none => simp [render, contextText]
  | some name =>
    have named : name.isEmpty = false := Reader.isEmpty_of_isName shape
    simp [render, contextText, filled, named]

theorem text_ne_empty {p : Pattern} (nonempty : p.tokens ≠ []) (primary : Option String) :
    p.text primary ≠ "" := by
  obtain ⟨t, ts, tokens⟩ := List.exists_cons_of_ne_nil nonempty
  have filled : Token.renderAll primary p.tokens ≠ [] := by
    rw [tokens]
    exact List.ne_nil_of_length_pos (Nat.zero_lt_of_lt (Token.solid_renderAll primary t ts).2)
  have written : p.render primary ≠ [] := by
    rw [render]
    split
    · split
      · exact filled
      · exact List.append_ne_nil_of_right_ne_nil _ (List.cons_ne_nil _ _)
    · exact filled
  intro same
  have empty := congrArg String.toList same
  rw [text, String.toList_ofList] at empty
  exact written empty

theorem solid_contextText (cs : List Char) (solid : Solid isBlank cs) (nonempty : cs ≠ [])
    (context : Option String) : Solid isBlank (cs ++ contextText context) := by
  cases context with
  | none => simpa [contextText] using solid
  | some name =>
    have closing : Solid isBlank ['/', '>'] := .between (by decide) (by decide) []
    have h := solid.surround closing nonempty nofun
      ([' ', 'w', 'i', 't', 'h', 'i', 'n', ' ', '<'] ++ name.toList)
    rw [List.append_assoc] at h
    exact h

theorem parse_of_drafts {cs : List Char} {default : String} {ds : List Reader.Draft}
    {context : Option String} {ts : List Token} (solid : Solid isBlank cs) (nonempty : cs ≠ [])
    (read : Reader.drafts? default (cs.length + 1) (skip cs) = some (ds, context))
    (settled : Reader.settle ds = .ok ts) :
    parse (String.ofList cs) default = .ok ⟨ts, context⟩ := by
  obtain ⟨c, tail, rfl⟩ := List.exists_cons_of_ne_nil nonempty
  have trimmed : Text.trim (c :: tail) = c :: tail := solid.trimBy
  have answer : Reader.read default (c :: tail) = .ok ⟨ts, context⟩ := by
    simp only [Reader.read, read, settled, Except.map]
  rw [parse, String.toList_ofList, trimmed]
  simp only [answer, Except.mapError]

theorem parse_text_under {p : Pattern} {primary : Option String} (h : p.isWritableUnder primary)
    {default : String} (agrees : ∀ name ∈ primary, default = name) :
    parse (p.text primary) default = .ok p.leftNested := by
  obtain ⟨tokens, context⟩ := p
  simp only [isWritableUnder, Bool.and_eq_true, Bool.not_eq_true', List.isEmpty_eq_false_iff,
    List.all_eq_true] at h
  obtain ⟨⟨nonempty, writable⟩, shape⟩ := h
  have text := render_eq (p := ⟨tokens, context⟩) nonempty shape primary
  obtain ⟨t, ts, rfl⟩ := List.exists_cons_of_ne_nil nonempty
  obtain ⟨solid, long⟩ := Token.solid_renderAll primary t ts
  have filled : Token.renderAll primary (t :: ts) ≠ [] :=
    List.ne_nil_of_length_pos (Nat.zero_lt_of_lt long)
  have whole : Solid isBlank (Token.renderAll primary (t :: ts) ++ contextText context) :=
    solid_contextText _ solid filled context
  rw [Pattern.text, text]
  obtain ⟨ds, read, settled⟩ := Reader.drafts?_renderAll agrees context shape writable
    (n := (Token.renderAll primary (t :: ts) ++ contextText context).length + 1)
    (by simp only [List.length_append]; omega)
  refine parse_of_drafts whole (List.append_ne_nil_of_left_ne_nil filled _) ?_ settled
  rw [whole.skip, read]

theorem parse_text_eq {p : Pattern} (h : p.isWritable) {primary : Option String} {default : String}
    (agrees : ∀ name ∈ primary, default = name) :
    parse (p.text primary) default = .ok p.leftNested := by
  simp only [isWritable, Bool.and_eq_true, List.all_eq_true] at h
  refine parse_text_under ?_ agrees
  simp only [isWritableUnder, Bool.and_eq_true, List.all_eq_true]
  have tokens t member := Reader.isWritableUnder_of_isWritable (h.1.2 t member) primary
  exact ⟨⟨h.1.1, tokens⟩, h.2⟩

/-- A pattern comes back from its text with every chain of one operator nested to the left: the
operands of a chain keep their order, a pattern whose chains nest to the left already comes back
as it was, and the truth of every condition stays. -/
theorem parse_text (p : Pattern) (primary : Option String) (fallback : String)
    (writable : p.isWritable) :
    parse (p.text primary) (primary.getD fallback) = .ok p.leftNested ∧
      p.leftNested.isLeftNested ∧
      (∀ op, p.leftNested.tokens.map (fun t => t.condition.map (Condition.operands op)) =
        p.tokens.map fun t => t.condition.map fun c =>
          (Condition.operands op c).map Condition.leftNested) ∧
      (p.isLeftNested → p.leftNested = p) ∧
      ∀ truth, p.leftNested.tokens.map (fun t => t.condition.map (Condition.holds truth)) =
        p.tokens.map fun t => t.condition.map (Condition.holds truth) := by
  refine ⟨parse_text_eq writable (by intro name same; subst same; rfl), ?_, ?_,
    leftNested_of_isLeftNested, ?_⟩
  · simp only [isLeftNested, leftNested, List.all_map, List.all_eq_true, Function.comp_apply]
    intro t member
    cases h : t.condition with
    | none => simp [Token.isLeftNested, Token.leftNested, h]
    | some c => simp [Token.isLeftNested, Token.leftNested, h, Condition.isLeftNested_leftNested]
  · intro op
    rw [leftNested, List.map_map]
    apply List.map_congr_left
    intro t member
    cases h : t.condition with
    | none => simp [Token.leftNested, h]
    | some c => simp [Token.leftNested, h, Condition.operands_leftNested]
  · intro truth
    rw [leftNested, List.map_map]
    apply List.map_congr_left
    intro t member
    cases h : t.condition with
    | none => simp [Token.leftNested, h]
    | some c => simp [Token.leftNested, h, Condition.holds_leftNested]

/-- A chain that nests to the right, with a quote in a value, after a bare literal. -/
theorem parse_text_of_right_nested :
    isWritable ⟨[⟨some (.attribute ⟨"word", "=", "a\"b"⟩), true, none, none, none⟩,
        ⟨some (.binary "&" (.attribute ⟨"lemma", "!=", "c\\."⟩)
          (.binary "&" (.attribute ⟨"pos", "=", "N"⟩) (.negation (.attribute ⟨"x", "=", ""⟩)))),
          false, some ⟨2, some 12⟩, some "s", none⟩], some "p"⟩ ∧
      parse (text ⟨[⟨some (.attribute ⟨"word", "=", "a\"b"⟩), true, none, none, none⟩,
        ⟨some (.binary "&" (.attribute ⟨"lemma", "!=", "c\\."⟩)
          (.binary "&" (.attribute ⟨"pos", "=", "N"⟩) (.negation (.attribute ⟨"x", "=", ""⟩)))),
          false, some ⟨2, some 12⟩, some "s", none⟩], some "p"⟩ (some "word")) "word" =
      .ok ⟨[⟨some (.attribute ⟨"word", "=", "a\"b"⟩), true, none, none, none⟩,
        ⟨some (.binary "&" (.binary "&" (.attribute ⟨"lemma", "!=", "c\\."⟩)
          (.attribute ⟨"pos", "=", "N"⟩)) (.negation (.attribute ⟨"x", "=", ""⟩))),
          false, some ⟨2, some 12⟩, some "s", none⟩], some "p"⟩ :=
  ⟨by decide, (parse_text _ (some "word") "" (by decide)).1⟩

end Pattern

end Concordance
