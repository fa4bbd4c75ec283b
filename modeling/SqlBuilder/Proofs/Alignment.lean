import SqlBuilder.Proofs.Emission

/-!
# Placeholders and parameters

A compiled statement is read as a driver's adapter reads it. If every word that is written as it
is can be read on its own, the whole text ends outside quotes, and its question marks outside quotes
are the places where the compiler put a placeholder, in the same order and with nothing between that
could be taken for one. The values bound there are the parameters, and they are what the blueprint
supplies to be bound, clause by clause.
-/

namespace SqlBuilder

open Outcome Placeholder

namespace Tokens

/-- The places of the placeholders in a text that begins at a given place, each with the value that
is bound to it. -/
def slots (quote : Quoting) : Nat → Tokens → List (Nat × Value)
  | _, [] => []
  | place, token :: rest =>
      token.parameter?.toList.map (fun value => (place, value)) ++
        slots quote (place + (token.render quote).length) rest

theorem map_snd_slots (quote : Quoting) (place : Nat) (tokens : Tokens) :
    (slots quote place tokens).map Prod.snd = tokens.parameters := by
  induction tokens generalizing place with
  | nil => rfl
  | cons token rest ih =>
      rw [slots, List.map_append, ih]
      cases token <;> rfl

theorem closed_render {token : Token}
    (hliteral : ∀ text, token = .literal text → Closed text.toList)
    (hslot : token.parameter? = none) : Closed (token.render Identifier.backtick).toList := by
  cases token with
  | literal text => exact hliteral text rfl
  | name segment => exact closed_backtick segment
  | slot value => cases hslot

/-- Reading the text of tokens with closed literals finds their placeholders and nothing else. -/
theorem marks_render {tokens : Tokens} (h : tokens.Literals fun cs => Closed cs) (place : Nat) :
    openAfter none (tokens.render Identifier.backtick).toList = none ∧
      marks none place (tokens.render Identifier.backtick).toList =
        (slots Identifier.backtick place tokens).map Prod.fst := by
  induction tokens generalizing place with
  | nil => simp [slots]
  | cons token rest ih =>
      have hrest := ih (h.subset fun _ => List.mem_cons_of_mem _)
        (place + (token.render Identifier.backtick).length)
      rw [render_cons, String.toList_append, slots, List.map_append, ← hrest.2]
      cases hslot : token.parameter? with
      | none =>
          have hclosed :=
            closed_render (fun text htext => h text (htext ▸ List.mem_cons_self)) hslot
          refine ⟨?_, ?_⟩
          · rw [openAfter_append, hclosed.openAfter_eq, hrest.1]
          · rw [marks_append, hclosed.marks_eq_nil, hclosed.openAfter_eq, String.length_toList]
            rfl
      | some value =>
          obtain ⟨other, rfl⟩ : ∃ other, token = .slot other := by
            cases token <;> simp_all [Token.parameter?]
          have hmark : ((Token.slot other).render Identifier.backtick).toList = ['?'] := by
            change "?".toList = ['?']
            decide
          rw [hmark]
          refine ⟨?_, ?_⟩
          · exact hrest.1
          · rw [← String.length_toList, hmark]
            rfl

end Tokens

/-- The question marks of a compiled statement are its placeholders: outside quotes there are as
many as there are parameters, each stands where a placeholder was put for the parameter of its
position, and the parameters are the values that the clauses supply, in their order. -/
theorem compile_aligned {compiler : Compiler}
    (hcompiler : compiler = Compiler.mysql ∨ compiler = Compiler.sqlite) {scope : Scope}
    {snapshot : Snapshot} {compiled : Compiled}
    (hcompile : compiler.compile scope snapshot = .ok compiled)
    (hwords : ∀ ingredient ∈ snapshot.ingredients compiler.dialect, ∀ text,
      ingredient.Inlines scope text → Closed text.toList) :
    openAfter none compiled.sql.toList = none ∧
      (marks none 0 compiled.sql.toList).length = compiled.parameters.length ∧
      compiled.parameters =
        (snapshot.ingredients compiler.dialect).filterMap Ingredient.bound? ∧
      ∃ tokens, compiler.tokens scope snapshot = .ok tokens ∧
        compiled.sql = tokens.render compiler.quote ∧
        (marks none 0 compiled.sql.toList).zip compiled.parameters =
          tokens.slots compiler.quote 0 := by
  have hquote : compiler.quote = Identifier.backtick := by
    rcases hcompiler with rfl | rfl <;> rfl
  have hemptying : ∀ c ∈ compiler.emptying.toList, isPlain c = true := by
    rcases hcompiler with rfl | rfl <;> decide
  obtain ⟨tokens, htokens, hfinish⟩ := bind_eq_ok.1 hcompile
  obtain rfl := pure_eq_ok.1 hfinish
  have hemission := Emission.compiled robust_closed hemptying htokens
  obtain ⟨hopen, hmarks⟩ := Tokens.marks_render (hemission.literals hwords) 0
  have hparameters := Tokens.map_snd_slots Identifier.backtick 0 tokens
  simp only [Compiler.finish, hquote]
  refine ⟨hopen, ?_, hemission.parameters, tokens, htokens, rfl, ?_⟩
  · rw [hmarks, ← hparameters, List.length_map, List.length_map]
  · rw [hmarks, ← hparameters]
    exact (List.zip_of_prod rfl rfl).symm

/-- A select whose names and inlined text have quotes and question marks, and which ends in a
union. -/
def hostileSnapshot : Snapshot where
  blueprint := (Blueprint.empty .select).add .columns
      (Fragment.of [("column", .method "MAX" [.text "a?\x60b"]), ("alias", .text "\x27?")])
    |>.add .where (Fragment.of
      [("column", .group [.fragment
          [(.text "column", .column "c\x22?"), (.text "value", .tuple [.int 1, .text "?"]),
            (.text "operator", .text "IN"), (.text "boolean", .text "AND")]]),
        ("boolean", .text "AND")])
    |>.add .where (Fragment.of
      [("column", .column "d"), ("value", .raw (.text "\x27?\x27")), ("operator", .text "="),
        ("boolean", .text "OR")])
  members := [.statement ((Blueprint.empty .select).add .having (Fragment.of
      [("column", .column "e?"), ("value", .text "\x27"), ("operator", .text "<"),
        ("boolean", .text "AND")])) []]

def Scope.nothing : Scope where
  query _ := ""
  queryBlueprint _ := ""
  blueprint _ := ""
  statement _ := .error .noAttribute

theorem closed_words_hostileSnapshot :
    ∀ ingredient ∈ hostileSnapshot.ingredients .mysql, ∀ text,
      ingredient.Inlines Scope.nothing text → Closed text.toList := by
  have hingredients : hostileSnapshot.ingredients .mysql =
      [.word (.text "MAX"), .path (.text "a?\x60b"), .name (.text "\x27?"),
        .word (.text "AND"), .word (.text "AND"), .path (.text "c\x22?"), .word (.text "IN"),
        .bound (.int 1), .bound (.text "?"), .word (.text "OR"), .path (.text "d"),
        .word (.text "="), .word (.text "\x27?\x27"), .word (.text "AND"), .path (.text "e?"),
        .word (.text "<"), .bound (.text "\x27")] := by with_unfolding_all rfl
  have hword : ∀ characters text : String, Closed characters.toList →
      (Ingredient.word (.text characters)).Inlines Scope.nothing text → Closed text.toList := by
    intro characters text hclosed htext
    obtain rfl : characters = text := by
      simpa [Ingredient.Inlines, Value.toText, Value.tokens, Value.plainText, Token.render,
        pure, Except.pure] using htext
    exact hclosed
  intro ingredient hmem text htext
  rw [hingredients] at hmem
  simp only [List.mem_cons, List.not_mem_nil, or_false] at hmem
  rcases hmem with rfl | rfl | rfl | rfl | rfl | rfl | rfl | rfl | rfl | rfl | rfl | rfl |
    rfl | rfl | rfl | rfl | rfl
  all_goals first
    | exact absurd htext id
    | exact hword _ text ⟨by decide, by decide⟩ htext

theorem compile_aligned_hostileSnapshot :
    ∃ compiled, Compiler.mysql.compile Scope.nothing hostileSnapshot = .ok compiled ∧
      compiled.sql = "SELECT MAX(\x60a?\x60\x60b\x60) AS \x60\x27?\x60 WHERE (\x60c\x22?\x60 IN (?, ?)) OR \x60d\x60 = \x27?\x27 UNION HAVING \x60e?\x60 < ?" ∧
      (marks none 0 compiled.sql.toList).length = compiled.parameters.length ∧
      compiled.parameters = [.int 1, .text "?", .text "\x27"] := by
  have hcompile : Compiler.mysql.compile Scope.nothing hostileSnapshot = .ok
      ⟨"SELECT MAX(\x60a?\x60\x60b\x60) AS \x60\x27?\x60 WHERE (\x60c\x22?\x60 IN (?, ?)) OR \x60d\x60 = \x27?\x27 UNION HAVING \x60e?\x60 < ?",
        [.int 1, .text "?", .text "\x27"], .mysql⟩ := by with_unfolding_all rfl
  have haligned := compile_aligned (.inl rfl) hcompile closed_words_hostileSnapshot
  exact ⟨_, hcompile, rfl, haligned.2.1, rfl⟩

end SqlBuilder
