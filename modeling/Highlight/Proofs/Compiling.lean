import Highlight.Proofs.Except
import Highlight.Proofs.GrammarText
import Mathlib.Data.List.Forall2
import Mathlib.Tactic.Common

/-!
# What compiling a declared grammar answers

Compiling goes down into the grammars inside patterns and stops at the first text that is no regular
expression.  This file compares it with two descriptions that compile nothing: the grammar that a
declaration *denotes*, rule by rule and pattern by pattern, and the list of all regular expressions
in it, in document order, each with the rule that it stands in.

A declaration compiles to the grammar that it denotes and to no other one
(`GrammarDecl.compile_eq_ok_iff`), and is refused for the first text of the list that is no regular
expression (`GrammarDecl.refusal?_compile`).
-/

namespace Highlight

/-! ## Patterns inside patterns -/

/-- A value of a shorthand is smaller than the shorthand. -/
lemma Shorthand.sizeOf_lt_of_mem {α : Type} [SizeOf α] {s : Shorthand α} {x : α}
    (h : x ∈ s.toList) : sizeOf x < sizeOf s := by
  cases s with
  | single value =>
    obtain rfl := List.mem_singleton.mp h
    simp
  | list values =>
    have hlt : sizeOf x < sizeOf values := List.sizeOf_lt_of_mem h
    simp only [Shorthand.list.sizeOf_spec]
    omega

/-- What holds of a pattern whenever it holds of all patterns of the rules inside it, holds of every
pattern. -/
theorem PatternDecl.induction {P : PatternDecl → Prop} (plain : ∀ source, P (.plain source))
    (bare : ∀ source lookbehind labels, P (.detailed source lookbehind labels none))
    (inside : ∀ source lookbehind labels (rules : GrammarDecl),
      (∀ rule ∈ rules, ∀ pattern ∈ rule.2.toList, P pattern) →
        P (.detailed source lookbehind labels (some rules))) (decl : PatternDecl) : P decl :=
  match decl with
  | .plain source => plain source
  | .detailed source lookbehind labels none => bare source lookbehind labels
  | .detailed source lookbehind labels (some rules) =>
    inside source lookbehind labels rules fun rule hrule pattern hpattern =>
      have hsmaller : sizeOf pattern < sizeOf rules := by
        obtain ⟨kind, patterns⟩ := rule
        have hrules := List.sizeOf_lt_of_mem hrule
        have hpatterns : sizeOf pattern < sizeOf patterns := Shorthand.sizeOf_lt_of_mem hpattern
        simp only [Prod.mk.sizeOf_spec] at hrules
        omega
      PatternDecl.induction plain bare inside pattern
termination_by sizeOf decl
decreasing_by
  simp only [PatternDecl.detailed.sizeOf_spec, Option.some.sizeOf_spec]
  omega

/-! ## Document order -/

mutual

/-- The regular expressions of a pattern in a rule, each with the kind of its innermost rule: the
pattern's own one, then those inside it. -/
def PatternDecl.expressions (kind : String) : PatternDecl → List (String × String)
  | .plain source => [(kind, source)]
  | .detailed source _ _ none => [(kind, source)]
  | .detailed source _ _ (some decl) => (kind, source) :: GrammarDecl.expressions decl

/-- The regular expressions of the patterns of a rule, one pattern after the other. -/
def PatternDecl.allExpressions (kind : String) : List PatternDecl → List (String × String)
  | [] => []
  | decl :: decls => decl.expressions kind ++ PatternDecl.allExpressions kind decls

/-- The regular expressions of declared rules in document order, each with the kind of its innermost
rule. -/
def GrammarDecl.expressions : GrammarDecl → List (String × String)
  | [] => []
  | (kind, .single decl) :: decls => decl.expressions kind ++ GrammarDecl.expressions decls
  | (kind, .list patterns) :: decls =>
    PatternDecl.allExpressions kind patterns ++ GrammarDecl.expressions decls

end

/-- The regular expressions of a rule stand in front of those of the other rules. -/
lemma GrammarDecl.expressions_cons (kind : String) (patterns : Shorthand PatternDecl)
    (decls : GrammarDecl) :
    expressions ((kind, patterns) :: decls) =
      PatternDecl.allExpressions kind patterns.toList ++ expressions decls := by
  cases patterns with
  | single decl =>
    rw [expressions, Shorthand.toList_single, PatternDecl.allExpressions,
      PatternDecl.allExpressions, List.append_nil]
  | list decls => rw [expressions, Shorthand.toList_list]

/-! ## Refusals -/

/-- The refusal of the first text that is no regular expression. -/
def firstRefusal (expressions : List (String × String)) : Option GrammarError :=
  (expressions.find? fun e => (Regex.compile? e.2).isNone).map fun e => .invalidPattern e.1 e.2

/-- A text of the first list is refused before those of the second one. -/
lemma firstRefusal_append (first second : List (String × String)) :
    firstRefusal (first ++ second) = (firstRefusal first).or (firstRefusal second) := by
  rw [firstRefusal, List.find?_append, Option.map_or]
  rfl

/-- Nothing is refused if every text is a regular expression. -/
lemma firstRefusal_eq_none_iff {expressions : List (String × String)} :
    firstRefusal expressions = none ↔ ∀ e ∈ expressions, (Regex.compile? e.2).isSome = true := by
  simp [firstRefusal, Option.isSome_iff_ne_none]

/-- What is refused stands behind regular expressions only. -/
lemma firstRefusal_eq_some_iff {expressions : List (String × String)} {error : GrammarError} :
    firstRefusal expressions = some error ↔
      ∃ before kind source behind, expressions = before ++ (kind, source) :: behind ∧
        (∀ e ∈ before, (Regex.compile? e.2).isSome = true) ∧ Regex.compile? source = none ∧
        error = .invalidPattern kind source := by
  rw [firstRefusal, Option.map_eq_some_iff]
  constructor
  · rintro ⟨⟨kind, source⟩, hfound, rfl⟩
    obtain ⟨hnone, before, behind, hsplit, hbefore⟩ := List.find?_eq_some_iff_append.mp hfound
    refine ⟨before, kind, source, behind, hsplit, fun e he => ?_,
      Option.isNone_iff_eq_none.mp hnone, rfl⟩
    simpa [Option.isSome_iff_ne_none] using hbefore e he
  · rintro ⟨before, kind, source, behind, hsplit, hbefore, hnone, rfl⟩
    refine ⟨(kind, source),
      List.find?_eq_some_iff_append.mpr ⟨?_, before, behind, hsplit, fun e he => ?_⟩, rfl⟩
    · exact Option.isNone_iff_eq_none.mpr hnone
    · simpa [Option.isSome_iff_ne_none] using hbefore e he

/-- A pattern without options is refused if its text is no regular expression. -/
lemma Pattern.refusal?_compile (kind source : String) :
    refusal? (compile kind source) = firstRefusal [(kind, source)] := by
  unfold compile firstRefusal
  cases hregex : Regex.compile? source <;> simp [refusal?, hregex]

/-- Patterns are refused for their first text that is refused, if each of them is. -/
lemma PatternDecl.refusal?_compileAll {kind : String} {decls : List PatternDecl}
    (h : ∀ decl ∈ decls, refusal? (decl.compile kind) = firstRefusal (decl.expressions kind)) :
    refusal? (compileAll kind decls) = firstRefusal (allExpressions kind decls) := by
  induction decls with
  | nil => rfl
  | cons decl decls ih =>
    rw [List.forall_mem_cons] at h
    rw [compileAll, allExpressions, firstRefusal_append, ← h.1, ← ih h.2]
    exact refusal?_bind fun pattern => refusal?_bind_pure

/-- Rules are refused for their first text that is refused, if each of their patterns is. -/
lemma GrammarDecl.refusal?_compile_of_forall_mem {decl : GrammarDecl}
    (h : ∀ rule ∈ decl, ∀ pattern ∈ rule.2.toList, ∀ kind,
      refusal? (pattern.compile kind) = firstRefusal (pattern.expressions kind)) :
    refusal? decl.compile = firstRefusal decl.expressions := by
  induction decl with
  | nil => rfl
  | cons rule decls ih =>
    obtain ⟨kind, patterns⟩ := rule
    rw [List.forall_mem_cons] at h
    have hpatterns := PatternDecl.refusal?_compileAll fun pattern hpattern =>
      h.1 pattern hpattern kind
    rw [compile_cons, expressions_cons, firstRefusal_append, ← hpatterns, ← ih h.2]
    exact refusal?_bind fun compiled => refusal?_bind_pure

/-- A pattern with options is refused for its own text, or else as the rules inside it are. -/
lemma PatternDecl.refusal?_compile_detailed (kind source : String) (lookbehind : Bool)
    (labels : Option (Shorthand String)) (inside : Option GrammarDecl) :
    refusal? ((detailed source lookbehind labels inside).compile kind) =
      (firstRefusal [(kind, source)]).or (refusal? (GrammarDecl.compileInside inside)) := by
  rw [compile, ← Pattern.refusal?_compile]
  exact refusal?_bind fun pattern => refusal?_bind_pure

/-- A pattern is refused for its first text that is no regular expression. -/
theorem PatternDecl.refusal?_compile (decl : PatternDecl) (kind : String) :
    refusal? (decl.compile kind) = firstRefusal (decl.expressions kind) := by
  induction decl using PatternDecl.induction generalizing kind with
  | plain source => exact Pattern.refusal?_compile kind source
  | bare source lookbehind labels =>
    rw [refusal?_compile_detailed, expressions]
    exact Option.or_none
  | inside source lookbehind labels rules ih =>
    have hrules := GrammarDecl.refusal?_compile_of_forall_mem ih
    rw [refusal?_compile_detailed, GrammarDecl.compileInside, refusal?_map, hrules, expressions,
      ← firstRefusal_append, List.singleton_append]

/-- Declared rules are refused for their first text that is no regular expression. -/
theorem GrammarDecl.refusal?_compile (decl : GrammarDecl) :
    refusal? decl.compile = firstRefusal decl.expressions :=
  refusal?_compile_of_forall_mem fun _ _ pattern _ => pattern.refusal?_compile

/-! ## Denoted grammars -/

mutual

/-- A pattern is what a declared one stands for: its text, compiled, with the declared options, and
what the declared rules inside it stand for. -/
inductive PatternDecl.Denotes : PatternDecl → Pattern → Prop
  | plain {regex : Regex} (compiled : Regex.compile? regex.source = some regex) :
    PatternDecl.Denotes (.plain regex.source) (.mk regex false none none)
  | bare {regex : Regex} (compiled : Regex.compile? regex.source = some regex) (lookbehind : Bool)
    (labels : Option (Shorthand String)) :
    PatternDecl.Denotes (.detailed regex.source lookbehind labels none)
      (.mk regex lookbehind labels none)
  | inside {regex : Regex} (compiled : Regex.compile? regex.source = some regex) (lookbehind : Bool)
    (labels : Option (Shorthand String)) {rules : GrammarDecl} {grammar : Grammar}
    (denotes : GrammarDecl.Denotes rules grammar) :
    PatternDecl.Denotes (.detailed regex.source lookbehind labels (some rules))
      (.mk regex lookbehind labels (some grammar))

/-- A grammar is what declared rules stand for: it has a rule for each of them, in their order and
of their kinds, and each rule has a pattern for each declared one, in their order. -/
inductive GrammarDecl.Denotes : GrammarDecl → Grammar → Prop
  | nil : GrammarDecl.Denotes [] []
  | cons (kind : String) {patterns : Shorthand PatternDecl} {compiled : List Pattern}
    {decls : GrammarDecl} {grammar : Grammar}
    (first : List.Forall₂ PatternDecl.Denotes patterns.toList compiled)
    (rest : GrammarDecl.Denotes decls grammar) :
    GrammarDecl.Denotes ((kind, patterns) :: decls) (⟨kind, compiled⟩ :: grammar)

end

/-- A compiled regular expression keeps its text. -/
lemma Regex.source_of_compile? {source : String} {regex : Regex}
    (h : compile? source = some regex) : regex.source = source := by
  obtain ⟨parsed, -, h⟩ := Option.bind_eq_some_iff.mp h
  obtain ⟨engine, -, h⟩ := Option.bind_eq_some_iff.mp h
  cases h
  rfl

/-- A pattern without options is its compiled text. -/
lemma Pattern.compile_eq_ok_iff {kind source : String} {pattern : Pattern} :
    compile kind source = .ok pattern ↔
      ∃ regex, Regex.compile? source = some regex ∧ pattern = .mk regex false none none := by
  unfold compile
  cases Regex.compile? source with
  | none => simp
  | some regex => simp [eq_comm]

/-- A pattern with options is its compiled text and the compiled rules inside it, with the options.
-/
lemma PatternDecl.compile_detailed_eq_ok_iff {kind source : String} {lookbehind : Bool}
    {labels : Option (Shorthand String)} {inside : Option GrammarDecl} {pattern : Pattern} :
    (detailed source lookbehind labels inside).compile kind = .ok pattern ↔
      ∃ regex grammar, Regex.compile? source = some regex ∧
        GrammarDecl.compileInside inside = .ok grammar ∧
          pattern = .mk regex lookbehind labels grammar := by
  rw [compile, bind_eq_ok_iff]
  constructor
  · rintro ⟨bare, hbare, hrest⟩
    obtain ⟨regex, hregex, rfl⟩ := Pattern.compile_eq_ok_iff.mp hbare
    obtain ⟨grammar, hgrammar, heq⟩ := bind_eq_ok_iff.mp hrest
    cases heq
    exact ⟨regex, grammar, hregex, hgrammar, rfl⟩
  · rintro ⟨regex, grammar, hregex, hgrammar, rfl⟩
    refine ⟨.mk regex false none none, Pattern.compile_eq_ok_iff.mpr ⟨regex, hregex, rfl⟩, ?_⟩
    exact bind_eq_ok_iff.mpr ⟨grammar, hgrammar, rfl⟩

/-- Patterns compile to what they denote, one after the other, if each of them does. -/
lemma PatternDecl.compileAll_eq_ok_iff {kind : String} {decls : List PatternDecl}
    {patterns : List Pattern}
    (h : ∀ decl ∈ decls, ∀ pattern, decl.compile kind = .ok pattern ↔ decl.Denotes pattern) :
    compileAll kind decls = .ok patterns ↔ List.Forall₂ Denotes decls patterns := by
  induction decls generalizing patterns with
  | nil => simp [compileAll, eq_comm]
  | cons decl decls ih =>
    rw [List.forall_mem_cons] at h
    rw [compileAll, bind_eq_ok_iff, List.forall₂_cons_left_iff]
    constructor
    · rintro ⟨pattern, hfirst, hrest⟩
      obtain ⟨others, hothers, heq⟩ := bind_eq_ok_iff.mp hrest
      cases heq
      exact ⟨pattern, others, (h.1 pattern).mp hfirst, (ih h.2).mp hothers, rfl⟩
    · rintro ⟨pattern, others, hfirst, hothers, rfl⟩
      exact ⟨pattern, (h.1 pattern).mpr hfirst,
        bind_eq_ok_iff.mpr ⟨others, (ih h.2).mpr hothers, rfl⟩⟩

/-- Rules compile to what they denote, one after the other, if each of their patterns does. -/
lemma GrammarDecl.compile_eq_ok_iff_of_forall_mem {decl : GrammarDecl} {grammar : Grammar}
    (h : ∀ rule ∈ decl, ∀ pattern ∈ rule.2.toList, ∀ kind compiled,
      pattern.compile kind = .ok compiled ↔ pattern.Denotes compiled) :
    decl.compile = .ok grammar ↔ decl.Denotes grammar := by
  induction decl generalizing grammar with
  | nil =>
    constructor
    · rintro ⟨⟩
      exact .nil
    · rintro ⟨⟩
      rfl
  | cons rule decls ih =>
    obtain ⟨kind, patterns⟩ := rule
    rw [List.forall_mem_cons] at h
    have hpatterns : ∀ compiled, PatternDecl.compileAll kind patterns.toList = .ok compiled ↔
        List.Forall₂ PatternDecl.Denotes patterns.toList compiled := fun compiled =>
      PatternDecl.compileAll_eq_ok_iff fun pattern hpattern => h.1 pattern hpattern kind
    rw [compile_cons, bind_eq_ok_iff]
    constructor
    · rintro ⟨compiled, hcompiled, hrest⟩
      obtain ⟨rules, hrules, heq⟩ := bind_eq_ok_iff.mp hrest
      cases heq
      exact .cons kind ((hpatterns compiled).mp hcompiled) ((ih h.2).mp hrules)
    · intro hdenotes
      cases hdenotes with
      | cons kind hfirst hothers =>
        exact ⟨_, (hpatterns _).mpr hfirst, bind_eq_ok_iff.mpr ⟨_, (ih h.2).mpr hothers, rfl⟩⟩

/-- A pattern compiles to the pattern that it denotes, and to no other. -/
theorem PatternDecl.compile_eq_ok_iff (decl : PatternDecl) (kind : String) (pattern : Pattern) :
    decl.compile kind = .ok pattern ↔ decl.Denotes pattern := by
  induction decl using PatternDecl.induction generalizing kind pattern with
  | plain source =>
    rw [compile, Pattern.compile_eq_ok_iff]
    constructor
    · rintro ⟨regex, hregex, rfl⟩
      obtain rfl := Regex.source_of_compile? hregex
      exact .plain hregex
    · intro hdenotes
      cases hdenotes with
      | plain hregex => exact ⟨_, hregex, rfl⟩
  | bare source lookbehind labels =>
    rw [compile_detailed_eq_ok_iff]
    constructor
    · rintro ⟨regex, grammar, hregex, hnone, rfl⟩
      obtain rfl := Regex.source_of_compile? hregex
      cases hnone
      exact .bare hregex lookbehind labels
    · intro hdenotes
      cases hdenotes with
      | bare hregex => exact ⟨_, none, hregex, rfl, rfl⟩
  | inside source lookbehind labels rules ih =>
    have hrules : ∀ grammar, GrammarDecl.compile rules = .ok grammar ↔ rules.Denotes grammar :=
      fun grammar => GrammarDecl.compile_eq_ok_iff_of_forall_mem ih
    rw [compile_detailed_eq_ok_iff, GrammarDecl.compileInside]
    constructor
    · rintro ⟨regex, inside, hregex, hinside, rfl⟩
      obtain rfl := Regex.source_of_compile? hregex
      obtain ⟨grammar, hgrammar, rfl⟩ := map_eq_ok_iff.mp hinside
      exact .inside hregex lookbehind labels ((hrules grammar).mp hgrammar)
    · intro hdenotes
      cases hdenotes with
      | inside hregex _ _ hgrammar =>
        exact ⟨_, _, hregex, map_eq_ok_iff.mpr ⟨_, (hrules _).mpr hgrammar, rfl⟩, rfl⟩

/-- Declared rules compile to the grammar that they denote, and to no other. -/
theorem GrammarDecl.compile_eq_ok_iff (decl : GrammarDecl) (grammar : Grammar) :
    decl.compile = .ok grammar ↔ decl.Denotes grammar :=
  compile_eq_ok_iff_of_forall_mem fun _ _ pattern _ => pattern.compile_eq_ok_iff

/-! ## Faithful compiling -/

/-- Declared rules are never refused as malformed. -/
lemma GrammarDecl.compile_ne_malformed (decl : GrammarDecl) : decl.compile ≠ .error .malformed := by
  intro h
  rw [← refusal?_eq_some_iff, refusal?_compile, firstRefusal_eq_some_iff] at h
  obtain ⟨_, _, _, _, _, _, _, heq⟩ := h
  cases heq

/-- A text is called malformed if it declares no rules, whatever stands in it. -/
lemma Grammar.parse_eq_malformed_iff {text : String} :
    Grammar.parse text = .error .malformed ↔ GrammarDecl.parse? text = none := by
  unfold Grammar.parse
  cases GrammarDecl.parse? text with
  | none => simp
  | some decl => simp [decl.compile_ne_malformed]

/-- Declared rules, nested to any depth, compile exactly if every regular expression in them is one,
and then to the grammar that they denote.  Otherwise they are refused for the first text in document
order that is no regular expression, under the kind of the innermost rule that it stands in.  A text
that declares no rules is called malformed, whatever regular expressions stand in it, and no other
text is. -/
theorem GrammarDecl.compile_denotes_or_refuses_first :
    (∀ decl : GrammarDecl,
      ((∃ grammar, decl.compile = .ok grammar) ↔
        ∀ e ∈ decl.expressions, (Regex.compile? e.2).isSome = true) ∧
      (∀ grammar, decl.compile = .ok grammar ↔ decl.Denotes grammar) ∧
      ∀ error, decl.compile = .error error ↔
        ∃ before kind source behind, decl.expressions = before ++ (kind, source) :: behind ∧
          (∀ e ∈ before, (Regex.compile? e.2).isSome = true) ∧ Regex.compile? source = none ∧
          error = .invalidPattern kind source) ∧
    ∀ text, Grammar.parse text = .error .malformed ↔ GrammarDecl.parse? text = none := by
  refine ⟨fun decl => ⟨?_, decl.compile_eq_ok_iff, fun error => ?_⟩,
    fun text => Grammar.parse_eq_malformed_iff⟩
  · rw [← refusal?_eq_none_iff, refusal?_compile, firstRefusal_eq_none_iff]
  · rw [← refusal?_eq_some_iff, refusal?_compile, firstRefusal_eq_some_iff]

/-- Patterns for tags, with rules inside the first one.  All of them may be regular expressions; a
text inside that is none is refused under its inner rule, before the one behind it; and such a text
does not make up for a number in the place of a pattern. -/
theorem compile_denotes_or_refuses_first_of_nested_tag :
    let name : String × Shorthand PatternDecl := ("name", .single (.plain "[a-z]+"))
    let tag (inside : GrammarDecl) (second : String) : GrammarDecl :=
      [("tag", .list [.detailed "<[a-z]+>" false (some (.single "markup")) (some inside),
        .plain second])]
    let whole := tag [name] "</>"
    let broken := tag [name, ("sign", .list [.plain "("])] "["
    (∃ grammar, whole.compile = .ok grammar ∧ whole.Denotes grammar) ∧
      broken.compile = .error (.invalidPattern "sign" "(") ∧
      (tag [name] "[").compile = .error (.invalidPattern "tag" "[") ∧
      Grammar.parse "\x7b\"tag\":\"[\",\"name\":1\x7d" = .error .malformed := by
  intro name tag whole broken
  obtain ⟨hcompile, hparse⟩ := GrammarDecl.compile_denotes_or_refuses_first
  obtain ⟨hanswers, hdenotes, -⟩ := hcompile whole
  obtain ⟨grammar, hgrammar⟩ := hanswers.mpr (by decide +kernel)
  refine ⟨⟨grammar, hgrammar, (hdenotes grammar).mp hgrammar⟩, ((hcompile broken).2.2 _).mpr ?_,
    ((hcompile (tag [name] "[")).2.2 _).mpr ?_, (hparse _).mpr ?_⟩
  · exact ⟨[("tag", "<[a-z]+>"), ("name", "[a-z]+")], "sign", "(", [("tag", "[")], rfl,
      by decide +kernel, Option.isNone_iff_eq_none.mp (by decide +kernel), rfl⟩
  · exact ⟨[("tag", "<[a-z]+>"), ("name", "[a-z]+")], "tag", "[", [], rfl,
      by decide +kernel, Option.isNone_iff_eq_none.mp (by decide +kernel), rfl⟩
  · exact Option.isNone_iff_eq_none.mp (by decide +kernel)

end Highlight
