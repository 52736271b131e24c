import Concordance.Proofs.Pattern.Accepted

/-! The canonical text of an accepted pattern. It is accepted again, and means the same, exactly if
no value holds a backslash that takes a double quote with it: the text writes that quote with a
backslash of its own, and the two backslashes then go together. -/

namespace Concordance

open Text (isName isNameChar)
open Quoted (Leads isPlain)
open Pattern.Reader (contextText isTagChar)

/-- In some value a backslash takes a double quote with it. -/
def Condition.escapesQuote (c : Condition) : Bool :=
  c.attributes.any fun a => Quoted.escapesQuote a.value.toList

def Token.escapesQuote (t : Token) : Bool := t.condition.any Condition.escapesQuote

def Pattern.escapesQuote (p : Pattern) : Bool := p.tokens.any Token.escapesQuote

/-! ### The text of nested chains -/

namespace Condition

theorem render_graft (op : String) (a b : Condition) :
    (graft op a b).render = (binary op a b).render := by
  induction b with
  | «attribute» x => rfl
  | negation e => rfl
  | binary op' l r ihl ihr =>
    by_cases same : op' = op
    · subst same
      obtain ⟨l', r', grafted⟩ := exists_graft_eq_binary op' a l
      have chain : (graft op' a l).operand op' = (graft op' a l).render :=
        operand_of_isChain (by simp [grafted, isChain])
      have own : (binary op' l r).operand op' = (binary op' l r).render :=
        operand_of_isChain (by simp [isChain])
      rw [graft_chain, render_binary, chain, ihl, render_binary, render_binary, own, render_binary]
      simp
    · rw [graft_of_not_chain a (not_isChain_binary l r same)]

theorem isBinary_leftNested (c : Condition) : c.leftNested.isBinary = c.isBinary := by
  cases c with
  | «attribute» a => rfl
  | negation e => rfl
  | binary op l r =>
    obtain ⟨l', r', grafted⟩ := exists_graft_eq_binary op l.leftNested r.leftNested
    rw [leftNested_binary, grafted]
    rfl

theorem operand_congr {op : String} {c e : Condition} (text : c.render = e.render)
    (binary : c.isBinary = e.isBinary) (chain : c.isChain op = e.isChain op) :
    c.operand op = e.operand op := by
  cases isBinary : e.isBinary with
  | false =>
    rw [operand_of_not_binary op (binary.trans isBinary), operand_of_not_binary op isBinary, text]
  | true =>
    cases isChain : e.isChain op with
    | false =>
      rw [operand_parenthesized (binary.trans isBinary) (chain.trans isChain),
        operand_parenthesized isBinary isChain, text]
    | true => rw [operand_of_isChain (chain.trans isChain), operand_of_isChain isChain, text]

theorem render_leftNested (c : Condition) : c.leftNested.render = c.render := by
  induction c with
  | «attribute» a => rfl
  | negation e ih => simp only [leftNested, render, isBinary_leftNested, ih]
  | binary op l r ihl ihr =>
    have left := operand_congr ihl (isBinary_leftNested l) (isChain_leftNested op l)
    have right := operand_congr ihr (isBinary_leftNested r) (isChain_leftNested op r)
    rw [leftNested_binary, render_graft, render_binary, render_binary, left, right]

end Condition

namespace Token

theorem bare?_leftNested (primary : Option String) (t : Token) :
    t.leftNested.bare? primary = t.bare? primary := by
  cases condition : t.condition with
  | none => simp [bare?, leftNested, condition]
  | some c =>
    cases c with
    | «attribute» a => simp [bare?, leftNested, condition, Condition.leftNested]
    | negation e => simp [bare?, leftNested, condition, Condition.leftNested]
    | binary op l r =>
      obtain ⟨l', r', grafted⟩ :=
        Condition.exists_graft_eq_binary op l.leftNested r.leftNested
      simp [bare?, leftNested, condition, Condition.leftNested, grafted]

theorem render_leftNested (primary : Option String) (t : Token) :
    t.leftNested.render primary = t.render primary := by
  have body : t.leftNested.body primary = t.body primary := by
    rw [Token.body, Token.body, bare?_leftNested]
    cases t.bare? primary with
    | some value => rfl
    | none =>
      cases condition : t.condition with
      | none => simp [leftNested, condition]
      | some c => simp [leftNested, condition, Condition.render_leftNested]
  rw [render, render, body]
  rfl

theorem renderAll_leftNested (primary : Option String) (ts : List Token) :
    renderAll primary (ts.map leftNested) = renderAll primary ts := by
  fun_induction renderAll primary ts with
  | case1 => rfl
  | case2 t => exact t.render_leftNested primary
  | case3 t u us ih =>
    simp only [List.map_cons] at ih ⊢
    rw [renderAll, render_leftNested, bare?_leftNested, bare?_leftNested, ih]

end Token

theorem Pattern.text_leftNested (p : Pattern) (primary : Option String) :
    p.leftNested.text primary = p.text primary := by
  simp only [text, render, leftNested, Token.renderAll_leftNested]

/-! ### The quotes of a text -/

namespace Quoted

theorem Leads.all {cs : List Char} (h : cs.all isPlain) : Leads false cs :=
  .plain (List.all_eq_true.mp h)

theorem Leads.wrap {lost : Bool} {cs : List Char} (h : Leads lost cs) (before behind : List Char)
    (plain : before.all isPlain) (plain' : behind.all isPlain) :
    Leads lost (before ++ cs ++ behind) := by
  simpa using ((Leads.all plain).append h).append (Leads.all plain')

theorem isPlain_of_mem_name {more : Char → Bool} (plain : ∀ c, more c → isPlain c)
    {name : List Char} (shape : isName more name) : ∀ c ∈ name, isPlain c := by
  cases name with
  | nil => exact nofun
  | cons c cs =>
    simp only [isName, Bool.and_eq_true, List.all_eq_true] at shape
    intro d member
    rcases List.mem_cons.mp member with rfl | member
    · exact isPlain_of_isNameStart shape.1
    · exact plain d (shape.2 d member)

end Quoted

namespace Condition

theorem leads_attribute {a : Attribute} (h : a.isReadable) :
    Leads (Quoted.escapesQuote a.value.toList) (Condition.attribute a).render := by
  simp only [Attribute.isReadable, Bool.and_eq_true, Bool.or_eq_true, beq_iff_eq] at h
  obtain ⟨⟨shape, comparison⟩, whole⟩ := h
  have name : Leads false a.name.toList :=
    .plain (Quoted.isPlain_of_mem_name Pattern.Reader.isPlain_of_isNameChar shape)
  have operator : Leads false a.operator.toList := by
    apply Leads.all
    rcases comparison with same | same <;> rw [same] <;> decide
  simpa [render] using (name.append operator).append (Leads.quote whole)

theorem leads_operand {lost : Bool} {c : Condition} (h : Leads lost c.render) (op : String) :
    Leads lost (c.operand op) := by
  rcases operand_eq_or op c with text | text
  · rwa [text]
  · rw [text]
    exact h.wrap ['('] [')'] (by decide) (by decide)

theorem leads_render {c : Condition} (h : c.isReadable) : Leads c.escapesQuote c.render := by
  induction c with
  | «attribute» a => simpa [escapesQuote, attributes] using leads_attribute h
  | negation e ih =>
    have inner : Leads e.escapesQuote e.render := ih h
    show Leads e.escapesQuote (negation e).render
    rw [render]
    split
    · exact inner.wrap ['!', '('] [')'] (by decide) (by decide)
    · simpa using inner.wrap ['!'] [] (by decide) rfl
  | binary op l r ihl ihr =>
    simp only [isReadable, Bool.and_eq_true, Bool.or_eq_true, beq_iff_eq] at h
    have left := leads_operand (ihl h.1.2) op
    have right := leads_operand (ihr h.2) op
    have between : Leads false (' ' :: op.toList ++ [' ']) := by
      apply Leads.all
      rcases h.1.1 with rfl | rfl <;> decide
    have whole := (left.append between).append right
    simpa [render_binary, escapesQuote, attributes] using whole

end Condition

namespace Token

theorem isPlain_of_mem_signed {i : Int} (h : 0 ≤ i) : ∀ c ∈ Numeral.signed i, Quoted.isPlain c := by
  obtain ⟨n, rfl⟩ := Pattern.Reader.exists_eq_natCast h
  exact fun c member =>
    Pattern.Reader.isPlain_of_isDigit c (Numeral.isDigit_of_mem_decimal member)

theorem isPlain_of_mem_repeat {r : Repeat} (h : r.isWritable) :
    ∀ c ∈ r.render, Quoted.isPlain c := by
  obtain ⟨least, most⟩ := r
  simp only [Repeat.isWritable, Bool.and_eq_true, decide_eq_true_eq] at h
  obtain ⟨⟨⟨nonnegative, ordered⟩, -⟩, -⟩ := h
  have digits := isPlain_of_mem_signed nonnegative
  cases most with
  | none =>
    simp only [Repeat.render]
    split
    · exact List.all_eq_true.mp (by decide)
    · split
      · exact List.all_eq_true.mp (by decide)
      · simpa [or_imp, forall_and] using ⟨rfl, digits, rfl, rfl⟩
  | some most =>
    have digits' := isPlain_of_mem_signed (Int.le_trans nonnegative (by simpa using ordered))
    simp only [Repeat.render]
    split
    · simpa [or_imp, forall_and] using ⟨rfl, digits', rfl⟩
    · simpa [or_imp, forall_and] using ⟨rfl, digits, rfl, digits', rfl⟩

theorem isPlain_of_mem_tag {name : String} (shape : isName isTagChar name.toList) :
    ∀ c ∈ name.toList, Quoted.isPlain c :=
  Quoted.isPlain_of_mem_name Pattern.Reader.isPlain_of_isTagChar shape

theorem leads_leading {t : Token}
    (shape : t.leadingTag.all fun name => isName isTagChar name.toList) :
    Leads false t.leading := by
  apply Leads.plain
  cases tag : t.leadingTag with
  | none => simp [Token.leading, tag]
  | some name =>
    have plain := isPlain_of_mem_tag (by simpa [tag] using shape)
    simp only [Token.leading, tag]
    split
    · exact List.forall_mem_nil _
    · simpa [or_imp, forall_and] using ⟨rfl, plain, rfl⟩

theorem leads_trailing {t : Token}
    (shape : t.trailingTag.all fun name => isName isTagChar name.toList) :
    Leads false t.trailing := by
  apply Leads.plain
  cases tag : t.trailingTag with
  | none => simp [Token.trailing, tag]
  | some name =>
    have plain := isPlain_of_mem_tag (by simpa [tag] using shape)
    simp only [Token.trailing, tag]
    split
    · exact List.forall_mem_nil _
    · simpa [or_imp, forall_and] using ⟨rfl, rfl, plain, rfl⟩

theorem leads_mark {t : Token} (bounds : t.repeats.all Repeat.isWritable) : Leads false t.mark := by
  apply Leads.plain
  rw [Token.mark]
  split
  · exact List.all_eq_true.mp (by decide)
  · cases repeats : t.repeats with
    | none => exact List.forall_mem_nil _
    | some r => exact isPlain_of_mem_repeat (by simpa [repeats] using bounds)

theorem leads_body (primary : Option String) {t : Token}
    (readable : t.condition.all Condition.isReadable) :
    Leads t.escapesQuote (t.body primary) := by
  cases bare : t.bare? primary with
  | some value =>
    obtain ⟨name, -, condition⟩ := Pattern.Reader.bare?_eq_some bare
    have whole : Quoted.isWhole value.toList := by
      simp only [condition, Option.all_some, Condition.isReadable, Attribute.isReadable,
        Bool.and_eq_true] at readable
      exact readable.2
    simpa [Token.body, bare, escapesQuote, condition, Condition.escapesQuote,
      Condition.attributes] using Leads.quote whole
  | none =>
    cases condition : t.condition with
    | none =>
      have empty : Leads false ['[', ']'] := .all (by decide)
      simpa [Token.body, bare, escapesQuote, condition] using empty
    | some c =>
      rw [condition] at readable
      have inner := (Condition.leads_render readable).wrap ['['] [']'] (by decide) (by decide)
      simpa [Token.body, bare, escapesQuote, condition] using inner

theorem leads_render (primary : Option String) {t : Token} (framed : t.isFramed)
    (readable : t.condition.all Condition.isReadable) :
    Leads t.escapesQuote (t.render primary) := by
  simp only [isFramed, Bool.and_eq_true] at framed
  obtain ⟨⟨⟨-, bounds⟩, leadingShape⟩, trailingShape⟩ := framed
  have leading := leads_leading leadingShape
  have body := leads_body primary readable
  have mark := leads_mark bounds
  have trailing := leads_trailing trailingShape
  simpa [render] using ((leading.append body).append mark).append trailing

theorem leads_renderAll {primary : Option String} {ts : List Token}
    (h : ∀ t ∈ ts, t.isFramed ∧ t.condition.all Condition.isReadable) :
    Leads (ts.any escapesQuote) (renderAll primary ts) := by
  fun_induction renderAll primary ts with
  | case1 => exact .nil
  | case2 t =>
    obtain ⟨framed, readable⟩ := h t List.mem_cons_self
    simpa using leads_render _ framed readable
  | case3 t u us ih =>
    obtain ⟨framed, readable⟩ := h t List.mem_cons_self
    have first := leads_render primary framed readable
    have others := ih fun v member => h v (List.mem_cons_of_mem t member)
    have gap : Leads false
        (if (t.bare? primary).isSome || (u.bare? primary).isSome then [' '] else []) := by
      apply Leads.all
      split <;> decide
    simpa using (first.append gap).append others

end Token

namespace Pattern

theorem leads_contextText {context : Option String}
    (shape : context.all fun name => isName isTagChar name.toList) :
    Leads false (contextText context) := by
  apply Leads.plain
  cases context with
  | none => exact nofun
  | some name =>
    have plain : ∀ c ∈ name.toList, isPlain c := Token.isPlain_of_mem_tag shape
    simp only [contextText, List.forall_mem_append]
    exact ⟨⟨List.all_eq_true.mp (by decide), plain⟩, List.all_eq_true.mp (by decide)⟩

namespace Readable

variable {default : String} {p : Pattern} (h : p.Readable default)
include h

theorem conditions (named : isName isNameChar default.toList) :
    ∀ t ∈ p.tokens, t.isFramed ∧ t.condition.all Condition.isReadable := by
  intro t member
  have readable := h.tokens t member
  refine ⟨readable.framed, ?_⟩
  cases condition : t.condition with
  | none => rfl
  | some c =>
    rcases readable.condition c condition with written | ⟨v, rfl, whole⟩
    · exact written
    · simp [Condition.isReadable, Attribute.isReadable, named, whole]

theorem parse_text_refused (named : isName isNameChar default.toList) (escapes : p.escapesQuote)
    (primary : Option String) (q : Pattern) : parse (p.text primary) default ≠ .ok q := by
  intro accepted
  have text := render_eq h.filled h.within primary
  have leads : Leads p.escapesQuote (p.render primary) := by
    rw [text, escapesQuote]
    simpa using (Token.leads_renderAll (h.conditions named)).append (leads_contextText h.within)
  have solid : Text.Solid Text.isBlank (p.render primary) := by
    obtain ⟨t, ts, tokens⟩ := List.exists_cons_of_ne_nil h.filled
    obtain ⟨solid, long⟩ := Token.solid_renderAll primary t ts
    rw [text, tokens]
    exact solid_contextText _ solid (List.ne_nil_of_length_pos (Nat.zero_lt_of_lt long)) p.within
  have passes := (parse_accepted accepted).1
  rw [Pattern.text, String.toList_ofList, Text.trim, solid.trimBy] at passes
  have lost := leads.starts
  rw [escapes] at lost
  exact Quoted.Lost.ne_outside lost passes

theorem isWritable (named : isName isNameChar default.toList) (free : p.escapesQuote = false) :
    p.isWritable := by
  have regular {c : Condition} (readable : c.isReadable) (free : c.escapesQuote = false) :
      c.isWritable := by
    induction c with
    | «attribute» a =>
      simp only [Condition.isReadable, Attribute.isReadable, Bool.and_eq_true] at readable
      simp only [Condition.escapesQuote, Condition.attributes, List.any_cons, List.any_nil,
        Bool.or_false] at free
      simp [Condition.isWritable, Attribute.isWritable, readable.1.1, readable.1.2, readable.2,
        Quoted.isRegular_eq, free]
    | negation e ih => exact ih readable free
    | binary op l r ihl ihr =>
      simp only [Condition.isReadable, Bool.and_eq_true] at readable
      simp only [Condition.escapesQuote, Condition.attributes, List.any_append,
        Bool.or_eq_false_iff] at free
      simp [Condition.isWritable, readable.1.1, ihl readable.1.2 free.1, ihr readable.2 free.2]
  have tokens : ∀ t ∈ p.tokens, t.isWritable := by
    intro t member
    obtain ⟨framed, readable⟩ := h.conditions named t member
    have free : t.escapesQuote = false := by simpa using List.any_eq_false.mp free t member
    have written : t.condition.all Condition.isWritable := by
      cases condition : t.condition with
      | none => rfl
      | some c =>
        exact regular (by simpa [condition] using readable)
          (by simpa [Token.escapesQuote, condition] using free)
    simp only [Token.isFramed, Bool.and_eq_true] at framed
    simp only [Token.isWritable, Bool.and_eq_true]
    exact ⟨⟨⟨⟨written, framed.1.1.1⟩, framed.1.1.2⟩, framed.1.2⟩, framed.2⟩
  simp only [Pattern.isWritable, Bool.and_eq_true, Bool.not_eq_true', List.isEmpty_eq_false_iff,
    List.all_eq_true]
  exact ⟨⟨h.filled, tokens⟩, h.within⟩

end Readable

/-- The canonical text of an accepted pattern says the same pattern, but for the nesting of its
chains, and is its own canonical text: exactly if in no value a backslash takes a double quote with
it. Otherwise it is not accepted at all. -/
theorem canonical_text_iff {text default : String} {p : Pattern}
    (named : isName isNameChar default.toList) (accepted : parse text default = .ok p)
    (filled : p.tokens ≠ []) :
    (∃ q, parse (p.text (some default)) default = .ok q ∧ q.leftNested = p.leftNested ∧
      q.text (some default) = p.text (some default)) ↔ p.escapesQuote = false := by
  have readable := (parse_accepted accepted).2 filled
  constructor
  · rintro ⟨q, again, -, -⟩
    by_contra escapes
    rw [Bool.not_eq_false] at escapes
    exact readable.parse_text_refused named escapes (some default) q again
  · intro free
    have again : parse (p.text (some default)) default = .ok p.leftNested :=
      parse_text_eq (readable.isWritable named free) (by rintro name ⟨⟩; rfl)
    exact ⟨p.leftNested, again, leftNested_of_isLeftNested p.isLeftNested_leftNested,
      p.text_leftNested (some default)⟩

def mixedQuotes : Pattern :=
  ⟨[.ofCondition (some (.attribute ⟨"word", "=", "it's \"a\""⟩)),
    .ofCondition (some (.binary "&" (.attribute ⟨"word", "!=", "a\"b"⟩)
      (.binary "&" (.attribute ⟨"pos", "=", "\\d\\\\"⟩) (.attribute ⟨"x", "=", "'"⟩))))], none⟩

theorem canonical_text_of_mixedQuotes :
    isName isNameChar "word".toList ∧
      parse "'it\\'s \"a\"' [word!=\"a\\\"b\" & (pos='\\d\\\\' & x=\"'\")]" "word" =
        .ok mixedQuotes ∧
      mixedQuotes.tokens ≠ [] ∧
      ((∃ q, parse (mixedQuotes.text (some "word")) "word" = .ok q ∧
        q.leftNested = mixedQuotes.leftNested ∧
        q.text (some "word") = mixedQuotes.text (some "word")) ↔
          mixedQuotes.escapesQuote = false) := by
  have accepted : parse "'it\\'s \"a\"' [word!=\"a\\\"b\" & (pos='\\d\\\\' & x=\"'\")]" "word" =
      .ok mixedQuotes := by
    decide +kernel
  exact ⟨by decide, accepted, nofun, canonical_text_iff (by decide) accepted nofun⟩

/-- In single quotes the backslash stays before a double quote. -/
def keptBackslash : Pattern := ⟨[.ofCondition (some (.attribute ⟨"word", "=", "a\\\"b"⟩))], none⟩

theorem canonical_text_refused :
    isName isNameChar "word".toList ∧ parse "'a\\\"b'" "word" = .ok keptBackslash ∧
      keptBackslash.tokens ≠ [] ∧
      ¬∃ q, parse (keptBackslash.text (some "word")) "word" = .ok q := by
  have refused : parse (keptBackslash.text (some "word")) "word" =
      .error ⟨"\"a\\\\\"b\"", .syntaxError⟩ := by
    decide +kernel
  refine ⟨by decide, by decide +kernel, nofun, ?_⟩
  rw [refused]
  exact nofun

end Pattern

end Concordance
