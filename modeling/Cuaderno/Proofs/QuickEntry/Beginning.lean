import Cuaderno.Proofs.QuickEntry.Reading
import Cuaderno.Proofs.Text.Folding

/-!
# Beginnings of a quick entry

Whoever types a quick entry goes through all its beginnings. From the first character of its name on
each of them is a quick entry too (`entry_of_beginning`): the cuts of a beginning are those of the
line up to the piece in which it stops (`Cuts.exists_beginning`), and this last piece may be
unfinished in any way.
-/

namespace Cuaderno.QuickEntry

open Cuaderno.Text (isBlank trim trimStart cut)

/-- What follows the first `/` of a line; nothing when there is none. -/
def behindSlash (line : List Char) : List Char := (line.dropWhile (· != '/')).tail

/-- Whether a line reaches into its name: behind its first `/` stands something that is not
blank. -/
def ReachesName (line : List Char) : Prop := ∃ c ∈ behindSlash line, isBlank c = false

private theorem behindSlash_append_cons {front : List Char} (h : '/' ∉ front) (rest : List Char) :
    behindSlash (front ++ '/' :: rest) = rest := by
  have hfront : ∀ c ∈ front, (c != '/') = true := by
    intro c hc
    rw [bne_iff_ne]
    rintro rfl
    exact h hc
  rw [behindSlash, List.dropWhile_append_of_pos hfront]
  rfl

theorem ReachesName.slash_mem {line : List Char} (h : ReachesName line) : '/' ∈ line := by
  obtain ⟨c, hc, -⟩ := h
  have hslash : line.dropWhile (· != '/') ≠ [] := by
    intro hnil
    rw [behindSlash, hnil] at hc
    cases hc
  by_contra hnone
  apply hslash
  rw [List.dropWhile_eq_nil_iff]
  intro d hd
  rw [bne_iff_ne]
  rintro rfl
  exact hnone hd

theorem ReachesName.behindSlash_append {line : List Char} (h : ReachesName line)
    (more : List Char) : behindSlash (line ++ more) = behindSlash line ++ more := by
  obtain ⟨hne, happend⟩ :=
    Text.dropWhile_append_of_mem (p := (· != '/')) ⟨'/', h.slash_mem, bne_self_eq_false _⟩ more
  rw [behindSlash, behindSlash, happend, List.tail_append_of_ne_nil hne]

theorem Cuts.behindSlash_eq {line : List Char} (c : Cuts line) : behindSlash line = c.rest := by
  have hline : line = (line.takeWhile isBlank ++ '@' :: c.typed) ++ '/' :: c.rest := by
    rw [List.append_assoc, List.cons_append, ← c.opens]
    exact List.takeWhile_append_dropWhile.symm
  have hslash : '/' ∉ line.takeWhile isBlank ++ '@' :: c.typed := by
    rw [List.mem_append, List.mem_cons]
    rintro (hblank | hat | htyped)
    · exact absurd (List.mem_takeWhile_imp hblank) (by decide)
    · cases hat
    · exact (c.isTypeWord.1 _ htyped).2.1 rfl
  exact (congrArg behindSlash hline).trans (behindSlash_append_cons hslash _)

/-- The beginning of a line with cuts has cuts as soon as it reaches into the name, with the same
word for the type. The name is the same once it has ended. -/
theorem Cuts.exists_beginning {line begun : List Char} (c : Cuts line) (h : begun <+: line)
    (hname : ReachesName begun) : ∃ b : Cuts begun, b.typed = c.typed ∧
      ('>' ∈ behindSlash begun → b.named = c.named) := by
  obtain ⟨more, rfl⟩ := h
  have hrest : c.rest = behindSlash begun ++ more := by
    rw [← c.behindSlash_eq, hname.behindSlash_append]
  have hopens : trimStart begun = '@' :: (c.typed ++ '/' :: behindSlash begun) := by
    have hblank : ∃ d ∈ begun, isBlank d = false := ⟨'/', hname.slash_mem, by decide⟩
    have hline := c.opens
    rw [trimStart, (Text.dropWhile_append_of_mem hblank more).2, hrest] at hline
    refine List.append_cancel_right (?_ : _ ++ more = _ ++ more)
    rw [trimStart, hline]
    simp
  obtain ⟨front, last, first, others, hbegun, -, hline⟩ :=
    Text.cut_append '>' (behindSlash begun) more
  rw [← hrest, c.cut_rest] at hline
  cases front with
  -- the line stops within the name
  | nil =>
    have hlast : behindSlash begun = last ∧ '>' ∉ last := eq_of_cut_eq_singleton hbegun
    refine ⟨⟨c.typed, behindSlash begun, last, [], hopens, c.isTypeWord, hbegun, ?_, by simp,
      by simp⟩, rfl, ?_⟩
    · obtain ⟨d, hd, hblank⟩ := hname
      rw [hlast.1] at hd
      intro htrim
      have hall := List.all_eq_true.1 ((Text.trim_eq_nil_iff last).1 htrim) d hd
      rw [hall] at hblank
      cases hblank
    · intro hgreater
      rw [hlast.1] at hgreater
      exact absurd hgreater hlast.2
  -- the line stops within a segment behind the name
  | cons named front =>
    obtain ⟨hnamed, hsegments⟩ := List.cons.inj hline
    refine ⟨⟨c.typed, behindSlash begun, named, front ++ [last], hopens, c.isTypeWord, hbegun,
      hnamed ▸ c.named_ne, ?_, ?_⟩, rfl, fun _ => hnamed.symm⟩
    · intro s hs
      rw [List.dropLast_concat] at hs
      apply c.closed
      rw [hsegments, List.append_eq, List.dropLast_append_of_ne_nil (List.cons_ne_nil _ _)]
      exact List.mem_append_left _ hs
    · intro s hs hequals
      rw [List.mem_append, List.mem_singleton] at hs
      rcases hs with hs | rfl
      · apply c.property_ne s _ hequals
        rw [hsegments]
        exact List.mem_append_left _ hs
      · have hproperty := c.property_ne (s ++ first)
          (by rw [hsegments]; simp) (List.mem_append_left _ hequals)
        obtain ⟨property, value, rfl, hp⟩ := List.eq_append_cons_of_mem hequals
        rw [List.append_assoc, List.cons_append, takeWhile_equals hp] at hproperty
        rwa [takeWhile_equals hp]

/-- A line that is a quick entry was one all the time since its name began, with the same word for
the type, and with the same name since the `>` that ends it. A line that reaches into its name and
is none becomes none, whatever is typed behind it. -/
theorem entry_of_beginning {begun line : String} (h : begun.toList <+: line.toList)
    (hname : ReachesName begun.toList) :
    (∀ e, entry? line = some e → ∃ b, entry? begun = some b ∧ b.typeWord = e.typeWord ∧
      ('>' ∈ behindSlash begun.toList → b.name = e.name)) ∧
    ( entry? begun = none → entry? line = none) := by
  have hbegun : ∀ e, entry? line = some e → ∃ b, entry? begun = some b ∧
      b.typeWord = e.typeWord ∧ ('>' ∈ behindSlash begun.toList → b.name = e.name) := by
    intro e he
    obtain ⟨c, rfl⟩ := exists_cuts he
    obtain ⟨b, htyped, hnamed⟩ := c.exists_beginning h hname
    refine ⟨b.entry, entry?_eq_of_cuts b, congrArg trimmed htyped, fun hgreater => ?_⟩
    exact congrArg trimmed (hnamed hgreater)
  refine ⟨hbegun, fun hnone => ?_⟩
  cases he : entry? line with
  | none => rfl
  | some e =>
    obtain ⟨b, hb, -⟩ := hbegun e he
    rw [hnone] at hb
    cases hb

/-- While the property is typed, type and name of the entry are there. -/
theorem entry_of_beginning_shopping :
    entry? "@tarea/Comprar pan > fecha = hoy" =
        some ⟨"tarea", "Comprar pan", [("fecha", "hoy")]⟩ ∧
      ∃ b, entry? "@tarea/Comprar pan > fe" = some b ∧ b.typeWord = "tarea" ∧
        b.name = "Comprar pan" := by
  have hline : entry? "@tarea/Comprar pan > fecha = hoy" =
      some ⟨"tarea", "Comprar pan", [("fecha", "hoy")]⟩ := by
    decide +kernel
  have hbegun : "@tarea/Comprar pan > fe".toList <+: "@tarea/Comprar pan > fecha = hoy".toList :=
    ⟨"cha = hoy".toList, by decide +kernel⟩
  have hname : ReachesName "@tarea/Comprar pan > fe".toList :=
    ⟨'C', by decide +kernel, by decide⟩
  obtain ⟨b, hb, htype, hgreater⟩ := (entry_of_beginning hbegun hname).1 _ hline
  exact ⟨hline, b, hb, htype, hgreater (by decide +kernel)⟩

end Cuaderno.QuickEntry
