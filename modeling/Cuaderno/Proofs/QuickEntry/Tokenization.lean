import Cuaderno.Proofs.QuickEntry.Phases
import Cuaderno.Text.Piece
import Mathlib.Algebra.Ring.Nat
import Mathlib.Data.List.Chain

/-!
# How a line is cut into tokens

The tokens of a line lie one behind the other and take all of it. Each has only characters that fit
its kind, and no two runs of one kind stand side by side. There is one such list of tokens
(`tokenize_spec`): the first character of a token decides its kind, and the kind where it ends.
-/

namespace Cuaderno.QuickEntry

open Cuaderno.Text (isBlank slice slice_of_nat)

/-- Whether a token of a kind may have some characters. -/
def TokenKind.Fits : TokenKind → List Char → Prop
  | .at, cs => cs = ['@']
  | .slash, cs => cs = ['/']
  | .greater, cs => cs = ['>']
  | .equals, cs => cs = ['=']
  | .blank, cs => ∀ c ∈ cs, isBlank c = true
  | .text, cs => ∀ c ∈ cs, isBlank c = false ∧ c ∉ ['@', '/', '>', '=']
  | .stop, _ => True

variable {k : TokenKind} {c : Char} {cs rest lexeme : List Char} {offset : Nat}

theorem kindOf_eq_text_iff :
    kindOf c = .text ↔ isBlank c = false ∧ c ∉ ['@', '/', '>', '='] := by
  unfold kindOf
  repeat' split
  all_goals simp_all

private theorem kindOf_ne_stop (c : Char) : kindOf c ≠ .stop := by
  unfold kindOf
  repeat' split
  all_goals exact TokenKind.noConfusion

private theorem TokenKind.Fits.kindOf_eq (h : k.Fits lexeme) (hk : k ≠ .stop) :
    ∀ c ∈ lexeme, kindOf c = k := by
  intro c hc
  cases k with
  | blank => exact kindOf_eq_blank_iff.2 (h c hc)
  | text => exact kindOf_eq_text_iff.2 (h c hc)
  | stop => exact absurd rfl hk
  | «at» | slash | greater | equals =>
    obtain rfl : lexeme = _ := h
    rw [List.mem_singleton.1 hc]
    decide

private theorem TokenKind.Fits.tail_eq_nil (h : k.Fits (c :: cs)) (hk : k ≠ .stop)
    (hrun : k.isRun = false) : cs = [] := by
  cases k with
  | blank | text => cases hrun
  | stop => exact absurd rfl hk
  | «at» | slash | greater | equals => exact (List.cons.inj h).2

private theorem fits_takeWhile (c : Char) (cs : List Char) :
    (kindOf c).Fits (c :: cs.takeWhile (kindOf c).goesOn) := by
  have hall : ∀ d ∈ c :: cs.takeWhile (kindOf c).goesOn, kindOf d = kindOf c := by
    rw [List.forall_mem_cons]
    refine ⟨rfl, fun d hd => ?_⟩
    have hgoes := List.mem_takeWhile_imp hd
    simp only [TokenKind.goesOn, Bool.and_eq_true, decide_eq_true_eq] at hgoes
    exact hgoes.2
  have hsign (hrun : (kindOf c).isRun = false) : cs.takeWhile (kindOf c).goesOn = [] := by
    cases cs with
    | nil => rfl
    | cons d cs => simp [TokenKind.goesOn, hrun]
  cases hk : kindOf c with
  | blank =>
    rw [hk] at hall
    exact fun d hd => kindOf_eq_blank_iff.1 (hall d hd)
  | text =>
    rw [hk] at hall
    exact fun d hd => kindOf_eq_text_iff.1 (hall d hd)
  | stop => exact absurd hk (kindOf_ne_stop c)
  | «at» | slash | greater | equals =>
    rw [hk] at hsign
    rw [hsign rfl]
    unfold kindOf at hk
    split_ifs at hk
    rename_i hc
    rw [hc]
    rfl

/-- A token ends where its kind does not go on. -/
theorem tokensFrom_append_of_fits (hk : k ≠ .stop) (hne : lexeme ≠ []) (hfits : k.Fits lexeme)
    (hrest : ∀ d ∈ rest.head?, k.goesOn d = false) (offset : Nat) :
    tokensFrom offset (lexeme ++ rest) =
      ⟨k, lexeme, offset⟩ :: tokensFrom (offset + lexeme.length) rest := by
  obtain ⟨c, cs, rfl⟩ := List.exists_cons_of_ne_nil hne
  have hkinds := hfits.kindOf_eq hk
  rw [List.forall_mem_cons] at hkinds
  have hgoes : ∀ d ∈ cs, k.goesOn d = true := by
    intro d hd
    cases hrun : k.isRun with
    | false =>
      rw [hfits.tail_eq_nil hk hrun] at hd
      cases hd
    | true => simp [TokenKind.goesOn, hrun, hkinds.2 d hd]
  rw [List.cons_append, tokensFrom, hkinds.1]
  simp only [takeWhile_append_of_head cs hrest, dropWhile_append_of_head cs hrest,
    List.takeWhile_eq_self_iff.2 hgoes, List.dropWhile_eq_nil_iff.2 hgoes, List.nil_append]

private theorem kind_head?_tokensFrom (offset : Nat) (c : Char) (cs : List Char) :
    (tokensFrom offset (c :: cs)).head?.map (·.kind) = some (kindOf c) := by
  rw [tokensFrom]
  rfl

/-- What the tokens of a text are, when the text starts at an offset. -/
structure Tokenizes (offset : Nat) (cs : List Char) (ts : List Token) : Prop where
  lossless : ts.flatMap (·.lexeme) = cs
  contiguous : ∀ before t after, ts = before ++ t :: after →
    t.offset = offset + (before.map (·.lexeme.length)).sum
  ends : ∃ front t, ts = front ++ [t] ∧ t.kind = .stop ∧ t.offset = offset + cs.length ∧
    ∀ u ∈ front, u.kind ≠ .stop
  nonempty : ∀ t ∈ ts, t.kind ≠ .stop → t.lexeme ≠ []
  fits : ∀ t ∈ ts, t.kind.Fits t.lexeme
  maximal : ts.IsChain fun t u => t.kind.isRun = true → u.kind ≠ t.kind

namespace Tokenizes

variable {t : Token} {ts : List Token}

theorem nil (offset : Nat) : Tokenizes offset [] [⟨.stop, [], offset⟩] where
  lossless := rfl
  contiguous := by
    intro before t after h
    obtain ⟨rfl, hown⟩ | ⟨front, -, hnil⟩ := List.cons_eq_append_iff.1 h
    · cases hown
      rfl
    · simp at hnil
  ends := ⟨[], _, rfl, rfl, rfl, List.forall_mem_nil _⟩
  nonempty := by simp
  fits := by simp [TokenKind.Fits]
  maximal := List.isChain_singleton _

theorem cons (hoffset : t.offset = offset) (hkind : t.kind ≠ .stop) (hne : t.lexeme ≠ [])
    (hfits : t.kind.Fits t.lexeme)
    (hapart : ∀ u ∈ ts.head?, t.kind.isRun = true → u.kind ≠ t.kind)
    (h : Tokenizes (offset + t.lexeme.length) cs ts) :
    Tokenizes offset (t.lexeme ++ cs) (t :: ts) where
  lossless := by rw [List.flatMap_cons, h.lossless]
  contiguous := by
    intro before u after hsplit
    obtain ⟨rfl, hown⟩ | ⟨front, rfl, hts⟩ := List.cons_eq_append_iff.1 hsplit
    · cases hown
      exact hoffset
    · rw [h.contiguous front u after hts, List.map_cons, List.sum_cons, Nat.add_assoc]
  ends := by
    obtain ⟨front, u, rfl, hstop, hend, hfront⟩ := h.ends
    refine ⟨t :: front, u, rfl, hstop, ?_, List.forall_mem_cons.2 ⟨hkind, hfront⟩⟩
    rw [hend, List.length_append, Nat.add_assoc]
  nonempty := List.forall_mem_cons.2 ⟨fun _ => hne, h.nonempty⟩
  fits := List.forall_mem_cons.2 ⟨hfits, h.fits⟩
  maximal := List.isChain_cons.2 ⟨hapart, h.maximal⟩

theorem eq_stop (h : Tokenizes offset cs [t]) : cs = [] ∧ t = ⟨.stop, [], offset⟩ := by
  obtain ⟨front, u, hsplit, hstop, hend, -⟩ := h.ends
  obtain ⟨rfl, hu⟩ | ⟨before, rfl, hu⟩ := List.cons_eq_append_iff.1 hsplit
  · cases hu
    have hoffset := h.contiguous [] t [] rfl
    have hlossless := h.lossless
    rw [List.map_nil, List.sum_nil, Nat.add_zero] at hoffset
    rw [List.flatMap_singleton] at hlossless
    obtain rfl : cs = [] := List.length_eq_zero_iff.1 (by omega)
    obtain ⟨kind, lexeme, start⟩ := t
    cases hstop
    cases hlossless
    cases hoffset
    exact ⟨rfl, rfl⟩
  · simp at hu

/-- Behind a token that is not the last one come the tokens of the rest. -/
theorem exists_rest (h : Tokenizes offset cs (t :: ts)) (hts : ts ≠ []) :
    t.offset = offset ∧ t.kind ≠ .stop ∧
      ∃ rest, cs = t.lexeme ++ rest ∧ Tokenizes (offset + t.lexeme.length) rest ts := by
  have hoffset : t.offset = offset := h.contiguous [] t ts rfl
  have hlossless := h.lossless
  rw [List.flatMap_cons] at hlossless
  obtain ⟨front, u, hsplit, hstop, hend, hfront⟩ := h.ends
  obtain ⟨rfl, hu⟩ | ⟨front, rfl, hu⟩ := List.cons_eq_append_iff.1 hsplit
  · simp only [List.cons.injEq] at hu
    exact absurd hu.2.symm hts
  · rw [List.forall_mem_cons] at hfront
    refine ⟨hoffset, hfront.1, ts.flatMap (·.lexeme), hlossless.symm, rfl, ?_, ?_, ?_, ?_, ?_⟩
    · intro before v after hv
      rw [h.contiguous (t :: before) v after (by rw [hv]; rfl), List.map_cons, List.sum_cons,
        Nat.add_assoc]
    · refine ⟨front, u, hu, hstop, ?_, hfront.2⟩
      rw [hend, ← hlossless, List.length_append, Nat.add_assoc]
    · exact (List.forall_mem_cons.1 h.nonempty).2
    · exact (List.forall_mem_cons.1 h.fits).2
    · exact h.maximal.tail

theorem slice_eq (h : Tokenizes 0 cs ts) (ht : t ∈ ts) : slice cs t.offset t.stop = t.lexeme := by
  obtain ⟨before, after, rfl⟩ := List.append_of_mem ht
  have hoffset := h.contiguous before t after rfl
  have hlossless := h.lossless
  rw [Nat.zero_add, ← List.length_flatMap] at hoffset
  rw [List.flatMap_append, List.flatMap_cons] at hlossless
  rw [slice_of_nat, Token.stop, hoffset, ← hlossless, List.take_length_add_append,
    List.take_left, List.drop_left]

end Tokenizes

private theorem tokenizes_tokensFrom (offset : Nat) (cs : List Char) :
    Tokenizes offset cs (tokensFrom offset cs) := by
  fun_induction tokensFrom offset cs with
  | case1 offset => exact .nil offset
  | case2 offset c cs k run ih =>
    have hsplit : c :: cs = run ++ cs.dropWhile k.goesOn := by
      simp [run]
    have hapart : ∀ u ∈ (tokensFrom (offset + run.length) (cs.dropWhile k.goesOn)).head?,
        k.isRun = true → u.kind ≠ k := by
      intro u hu hrun
      cases hrest : cs.dropWhile k.goesOn with
      | nil =>
        rw [hrest, tokensFrom] at hu
        cases hu
        exact (kindOf_ne_stop c).symm
      | cons d rest =>
        -- the first character that is left is one that does not go on with the run
        have hd : k.goesOn d = false := by
          have hhead := List.head?_dropWhile_not k.goesOn cs
          rwa [hrest, List.head?_cons] at hhead
        have hkind := kind_head?_tokensFrom (offset + run.length) d rest
        rw [← hrest, hu, Option.map_some, Option.some.injEq] at hkind
        rw [hkind]
        intro heq
        simp [TokenKind.goesOn, hrun, heq] at hd
    rw [hsplit]
    exact Tokenizes.cons (t := ⟨k, run, offset⟩) rfl (kindOf_ne_stop c) (List.cons_ne_nil c _)
      (fits_takeWhile c cs) hapart ih

/-- Conditions on the tokens of a text leave no choice: by induction on the tokens, the kind of the
first one says how far it goes. -/
theorem Tokenizes.eq_tokensFrom {ts : List Token} (h : Tokenizes offset cs ts) :
    ts = tokensFrom offset cs := by
  induction ts generalizing offset cs with
  | nil =>
    obtain ⟨front, t, hsplit, -⟩ := h.ends
    simp at hsplit
  | cons t ts ih =>
    by_cases hts : ts = []
    · subst hts
      obtain ⟨rfl, rfl⟩ := h.eq_stop
      rw [tokensFrom]
    · obtain ⟨hoffset, hkind, rest, rfl, hrest⟩ := h.exists_rest hts
      have hown := ih hrest
      have hstops : ∀ d ∈ rest.head?, t.kind.goesOn d = false := by
        intro d hd
        obtain ⟨ds, rfl⟩ : ∃ ds, rest = d :: ds := ⟨rest.tail, (List.cons_head?_tail hd).symm⟩
        have hhead := kind_head?_tokensFrom (offset + t.lexeme.length) d ds
        rw [← hown, Option.map_eq_some_iff] at hhead
        obtain ⟨u, hu, hkindOf⟩ := hhead
        have hapart := (List.isChain_cons.1 h.maximal).1 u hu
        cases hrun : t.kind.isRun with
        | false => simp [TokenKind.goesOn, hrun]
        | true => simpa [TokenKind.goesOn, hrun, ← hkindOf] using hapart hrun
      rw [tokensFrom_append_of_fits hkind (h.nonempty t List.mem_cons_self hkind)
        (h.fits t List.mem_cons_self) hstops, ← hown, ← hoffset]

/-- The tokens of a line are the only list of tokens that lie one behind the other, take all of the
line and end with the one token that stands for its end, such that each has characters of its kind
and no two runs of one kind are neighbours. So each token is what stands in the line from its offset
to its stop. -/
theorem tokenize_spec (s : String) (ts : List Token) :
    (ts = tokenize s ↔ Tokenizes 0 s.toList ts) ∧
      (tokenize s).map (fun t => slice s.toList t.offset t.stop) =
        (tokenize s).map (·.lexeme) := by
  have hown : Tokenizes 0 s.toList (tokenize s) := tokenizes_tokensFrom 0 s.toList
  refine ⟨⟨?_, Tokenizes.eq_tokensFrom⟩, ?_⟩
  · rintro rfl
    exact hown
  · exact List.map_congr_left fun t ht => hown.slice_eq ht

end Cuaderno.QuickEntry
