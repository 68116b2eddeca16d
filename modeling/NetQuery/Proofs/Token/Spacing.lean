import Mathlib.Data.List.Nodup
import NetQuery.Proofs.Token.Tiling

namespace NetQuery

/-- No token lies on both sides of the place. -/
def Tokens.ApartAt (place : Nat) (tokens : Tokens) : Prop :=
  ∀ t ∈ tokens.items, t.span.stop ≤ place ∨ place ≤ t.span.start

instance (place : Nat) (tokens : Tokens) : Decidable (tokens.ApartAt place) :=
  inferInstanceAs (Decidable (∀ t ∈ tokens.items, _))

namespace Lexer

open Text

variable {position : Nat} {a b w : List Char} {items : List Token}

/-- Behind tokens that lie on a text, reading goes on with what follows. -/
theorem Laid.tokensFrom_append (h : Laid position a items) (hapart : Apart a b) :
    Lexer.tokensFrom position (a ++ b) =
      (Lexer.tokensFrom (position + byteLength a) b).map (Tokens.after items) := by
  induction h with
  | nil =>
    rw [List.nil_append, byteLength_nil, Nat.add_zero]
    cases Lexer.tokensFrom _ b <;> rfl
  | @blank position c a items hc _ ih =>
    rw [List.cons_append, tokensFrom_of_blank hc, ih (Apart.suffix [c] hapart), byteLength_cons,
      Nat.add_assoc]
  | @symbol position c a s items hc hs _ ih =>
    have hsplit := scanSymbol_split hs
    have hrest : Apart s.rest b := by
      rw [← hsplit] at hapart
      exact hapart.suffix s.lexeme
    rw [List.cons_append, tokensFrom_of_symbol hc, scanSymbol_append hs hapart]
    simp only [ih hrest]
    rw [← hsplit, byteLength_append, Nat.add_assoc]
    cases Lexer.tokensFrom _ b <;> rfl

/-- Blanks in front of a text only move its tokens. -/
theorem tokensFrom_blanks (h : ∀ c ∈ w, isBlank c = true) :
    tokensFrom position (w ++ b) = tokensFrom (position + byteLength w) b := by
  induction w generalizing position with
  | nil => rw [List.nil_append, byteLength_nil, Nat.add_zero]
  | cons c w ih =>
    obtain ⟨hc, hw⟩ := List.forall_mem_cons.mp h
    rw [List.cons_append, tokensFrom_of_blank hc, ih hw, byteLength_cons, Nat.add_assoc]

theorem apart_blanks (hne : w ≠ []) (h : ∀ c ∈ w, isBlank c = true) : Apart a (w ++ b) := by
  obtain ⟨c, w, rfl⟩ := List.exists_cons_of_ne_nil hne
  exact (endsWord_of_isBlank (h c List.mem_cons_self)).apart

/-- Behind a text that is read and blanks, the next one is read as it is alone, further on. -/
theorem Laid.tokensFrom_spaced (h : Laid 0 a items) (hne : w ≠ [])
    (hw : ∀ c ∈ w, isBlank c = true) : Lexer.tokensFrom 0 (a ++ (w ++ b)) =
      (((Lexer.tokensFrom 0 b).map (Tokens.shift (byteLength (a ++ w)))).mapError
        (LexError.shift (byteLength (a ++ w)))).map (Tokens.after items) := by
  rw [h.tokensFrom_append (apart_blanks hne hw), tokensFrom_blanks hw, Nat.add_assoc,
    ← byteLength_append, tokensFrom_shift]

/-- Tokens on a text that is cut between them lie on its two parts. -/
theorem Laid.cut (h : Laid position (a ++ b) items)
    (hapart : ∀ t ∈ items, t.span.stop ≤ position + byteLength a ∨
      position + byteLength a ≤ t.span.start) :
    ∃ front back, items = front ++ back ∧ Laid position a front ∧
      Laid (position + byteLength a) b back := by
  generalize hcs : a ++ b = cs at h
  induction h generalizing a with
  | nil =>
    obtain ⟨rfl, rfl⟩ := List.append_eq_nil_iff.mp hcs
    exact ⟨[], [], rfl, .nil, .nil⟩
  | @blank position c cs items hc h ih =>
    cases a with
    | nil =>
      obtain rfl : b = c :: cs := hcs
      exact ⟨[], items, rfl, .nil, .blank hc h⟩
    | cons d a =>
      obtain ⟨rfl, rfl⟩ := List.cons.inj hcs
      rw [byteLength_cons, ← Nat.add_assoc] at hapart ⊢
      obtain ⟨front, back, rfl, hfront, hback⟩ := ih hapart rfl
      exact ⟨front, back, rfl, .blank hc hfront, hback⟩
  | @symbol position c cs s items hc hs h ih =>
    cases a with
    | nil =>
      obtain rfl : b = c :: cs := hcs
      exact ⟨[], _, rfl, .nil, .symbol hc hs h⟩
    | cons d a =>
      obtain ⟨hfirst, hothers⟩ := List.forall_mem_cons.mp hapart
      have hsplit := scanSymbol_split hs
      -- The first token starts in front of the cut, so its lexeme ends there too.
      have hle : byteLength s.lexeme ≤ byteLength (d :: a) := by
        have hpos := d.utf8Size_pos
        simp only [byteLength_cons] at hfirst ⊢
        omega
      obtain ⟨more, ha, hrest⟩ := exists_append_of_byteLength_le (hsplit.trans hcs.symm) hle
      obtain ⟨tail, htail, hagain⟩ : ∃ tail, s.lexeme = c :: tail ∧
          scanSymbol position c (tail ++ more) = .ok ⟨s.symbol, s.lexeme, more⟩ := by
        apply scanSymbol_again hs
        intro e he
        rw [hrest, List.head?_append, he]
        rfl
      rw [ha, byteLength_append, ← Nat.add_assoc] at hothers ⊢
      obtain ⟨front, back, rfl, hfront, hback⟩ := ih hothers hrest.symm
      rw [show s.lexeme ++ more = c :: (tail ++ more) by rw [htail, List.cons_append]]
      have hsymbol := Laid.symbol hc hagain hfront
      exact ⟨_ :: front, back, rfl, hsymbol, hback⟩

end Lexer

open Lexer

/-- A text is read piece by piece: behind blanks, what follows a text that is read has the tokens,
or the error, that it has alone, only further on. And blanks that are put in where they cut no token
leave what the tokens say as it is. -/
theorem tokenize_is_local (a w b : String) (hne : w ≠ "") (hblank : Text.isAllBlank w = true) :
    (∀ front, tokenize a = .ok front →
      match tokenize b with
      | .ok back =>
        tokenize (a ++ w ++ b) =
          .ok ((back.shift (byteLength (a ++ w).toList)).after front.items)
      | .error e => tokenize (a ++ w ++ b) = .error (e.shift (byteLength (a ++ w).toList))) ∧
    ∀ tokens, tokenize (a ++ b) = .ok tokens → tokens.ApartAt (byteLength a.toList) →
      ∃ spaced, tokenize (a ++ w ++ b) = .ok spaced ∧ spaced.symbols = tokens.symbols := by
  have hne' : w.toList ≠ [] := by simpa using hne
  have hw : ∀ c ∈ w.toList, Text.isBlank c = true := List.all_eq_true.mp hblank
  have hspaced : ∀ {items}, Laid 0 a.toList items → tokenize (a ++ w ++ b) =
      (((tokenize b).map (Tokens.shift (byteLength (a ++ w).toList))).mapError
        (LexError.shift (byteLength (a ++ w).toList))).map (Tokens.after items) := by
    intro items hitems
    unfold tokenize
    rw [String.toList_append, String.toList_append, List.append_assoc]
    exact hitems.tokensFrom_spaced hne' hw
  constructor
  · intro front hfront
    rw [hspaced (laid_of_tokenize hfront).1]
    cases tokenize b <;> rfl
  · intro tokens htokens hapart
    obtain ⟨hlaid, -⟩ := laid_of_tokenize htokens
    rw [String.toList_append] at hlaid
    obtain ⟨front, back, hitems, hfront, hback⟩ := hlaid.cut (by rwa [Nat.zero_add])
    obtain ⟨alone, halone, hsymbols⟩ := Spells.of_at hback.tokensFrom rfl
    have hb : tokenize b = .ok alone := halone
    refine ⟨(alone.shift (byteLength (a ++ w).toList)).after front, ?_, ?_⟩
    · rw [hspaced hfront, hb]
      rfl
    · rw [Tokens.symbols_after, Tokens.symbols_shift, hsymbols]
      simp [Tokens.symbols, hitems]

/-- A comparison in front of a wide blank does not take the equals sign behind it, and a blank in
front of a colon is not read. -/
theorem tokenize_is_local_of_operator :
    (∃ front back, tokenize "n:>" = .ok front ∧ tokenize "=5" = .ok back ∧
      tokenize "n:>\u3000=5" = .ok ((back.shift 6).after front.items)) ∧
    ∃ spaced, tokenize "a\u3000:'b c'" = .ok spaced ∧
      spaced.symbols = [.field "a", .colon, .quoted "b c"] := by
  let front : Tokens :=
    ⟨[⟨.field "n", ⟨0, 1⟩⟩, ⟨.colon, ⟨1, 2⟩⟩, ⟨.operator (.order .gt), ⟨2, 3⟩⟩], 3⟩
  let back : Tokens := ⟨[⟨.operator .eq, ⟨0, 1⟩⟩, ⟨.value "5", ⟨1, 2⟩⟩], 2⟩
  let joined : Tokens :=
    ⟨[⟨.field "a", ⟨0, 1⟩⟩, ⟨.colon, ⟨1, 2⟩⟩, ⟨.quoted "b c", ⟨2, 7⟩⟩], 7⟩
  have hfront : tokenize "n:>" = .ok front := by decide +kernel
  have hback : tokenize "=5" = .ok back := by decide +kernel
  have hjoined : tokenize ("a" ++ ":'b c'") = .ok joined := by decide +kernel
  have hread := (tokenize_is_local "n:>" "\u3000" "=5" (by decide) (by decide)).1 front hfront
  rw [hback] at hread
  obtain ⟨spaced, hspaced, hsymbols⟩ :=
    (tokenize_is_local "a" "\u3000" ":'b c'" (by decide) (by decide)).2 joined hjoined (by decide)
  exact ⟨⟨front, back, hfront, hback, hread⟩, spaced, hspaced, hsymbols⟩

end NetQuery
