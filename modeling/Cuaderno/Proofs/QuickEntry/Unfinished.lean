import Cuaderno.Proofs.Outcome
import Cuaderno.Proofs.QuickEntry.Reading

/-!
# Lines that end in a value

A scan goes over a line character by character: only signs change its progress
(`scanFrom_cons_run`), and what a sign changes depends on nothing behind it (`step_congr`). So a
line at whose end a value is being read can be taken up again at the start of that value. Whatever
is put there instead, the scan gives the same progress with another value, as long as no `>` ends
it (`exists_value`).
-/

namespace Cuaderno.QuickEntry

open Cuaderno.Text (isBlank trimStart)

private theorem Reading.passes_of_isRun (r : Reading) {k : TokenKind} (h : k.isRun = true) :
    r.passes k = true := by
  cases k <;> simp [TokenKind.isRun] at h <;> cases r <;> rfl

def Progress.assign (p : Progress) (value : List Char) : Progress :=
  { p with
    assignments := Fields.erase (p.pending.getD "") p.assignments ++
      [(p.pending.getD "", trimmed value)] }

namespace Progress

variable {source done cs : List Char} {p q : Progress} {offset : Nat}

/-- A character that is no sign changes nothing. -/
theorem scanFrom_cons_run {c : Char} (h : (kindOf c).isRun = true) :
    p.scanFrom source offset (c :: cs) = p.scanFrom source (offset + 1) cs := by
  have hstep (run : List Char) (i : Nat) : step source p ⟨kindOf c, run, i⟩ = .ok p :=
    step_of_passes (p.reading.passes_of_isRun h)
  cases cs with
  | nil => rw [scanFrom, tokensFrom, List.foldlM_cons, hstep]; rfl
  | cons d cs =>
    by_cases hd : kindOf d = kindOf c
    · have hgoes : (kindOf c).goesOn d = true := by simp [TokenKind.goesOn, h, hd]
      have hlen (run : List Char) :
          offset + (c :: d :: run).length = offset + 1 + (d :: run).length := by
        simp only [List.length_cons]
        omega
      simp only [scanFrom, tokensFrom, hd, List.takeWhile_cons_of_pos hgoes,
        List.dropWhile_cons_of_pos hgoes, List.foldlM_cons, hstep, hlen]
    · have hgoes : ¬ (kindOf c).goesOn d = true := by simp [TokenKind.goesOn, hd]
      rw [scanFrom, tokensFrom]
      simp only [List.takeWhile_cons_of_neg hgoes, List.dropWhile_cons_of_neg hgoes,
        List.foldlM_cons, hstep]
      rfl

/-- What a token changes depends on the line before it only. -/
theorem step_congr {other : List Char} {t : Token}
    (h : source.take t.offset = other.take t.offset) : step source p t = step other p t := by
  have hsegment (p : Progress) : p.segment source t = p.segment other t := by
    rw [segment, segment, h]
  simp only [step, hsegment]

/-- A step to the reading of a value starts it, or goes on with it. -/
theorem step_to_value {t : Token} (h : step source p t = .ok q) (hq : q.reading = .value) :
    (p.reading = .value ∧ t.kind ≠ .greater ∧ q.pending = p.pending ∧
        (t.kind ≠ .stop → q = p)) ∨
      (p.reading = .property ∧ t.kind = .equals ∧ q.segmentStart = t.stop ∧
        ∃ property, q.pending = some property) := by
  unfold step at h
  cases hr : p.reading with
  | type =>
    cases hk : t.kind with
    | slash =>
      simp only [hr, hk] at h
      split at h
      · cases h
      · cases h
        cases hq
    | text | blank =>
      simp only [hr, hk, Except.ok.injEq] at h
      simp [← h, hr] at hq
    | _ => simp only [hr, hk, reduceCtorEq] at h
  | name =>
    cases hk : t.kind with
    | greater | stop =>
      simp only [hr, hk] at h
      split at h
      · cases h
      · cases h
        cases hq
    | _ =>
      simp only [hr, hk, Except.ok.injEq] at h
      simp [← h, hr] at hq
  | property =>
    cases hk : t.kind with
    | equals =>
      simp only [hr, hk] at h
      split at h
      · cases h
      · cases h
        exact .inr ⟨rfl, rfl, rfl, _, rfl⟩
    | greater => simp only [hr, hk, reduceCtorEq] at h
    | _ =>
      simp only [hr, hk, Except.ok.injEq] at h
      simp [← h, hr] at hq
  | value =>
    refine .inl ⟨rfl, ?_⟩
    cases hk : t.kind with
    | greater =>
      simp only [hr, hk, if_true, Except.ok.injEq] at h
      rw [← h] at hq
      cases hq
    | stop =>
      simp only [hr, hk, reduceCtorEq, if_false, Except.ok.injEq] at h
      simp [← h]
    | _ =>
      simp only [hr, hk, Except.ok.injEq] at h
      simp [h]

/-- A value is read only while its property is pending: every step keeps this. -/
theorem step_keeps_pending {t : Token} (h : step source p t = .ok q)
    (hp : p.reading = .value → ∃ property, p.pending = some property) :
    q.reading = .value → ∃ property, q.pending = some property := by
  intro hq
  rcases step_to_value h hq with ⟨hr, -, hsame, -⟩ | ⟨-, -, -, hpending⟩
  · rw [hsame]
    exact hp hr
  · exact hpending

private theorem foldlM_keeps_pending {ts : List Token} (h : ts.foldlM (step source) p = .ok q)
    (hp : p.reading = .value → ∃ property, p.pending = some property) :
    q.reading = .value → ∃ property, q.pending = some property := by
  induction ts generalizing p with
  | nil =>
    cases h
    exact hp
  | cons t ts ih =>
    rw [List.foldlM_cons] at h
    obtain ⟨next, hnext, hrest⟩ := Outcome.bind_eq_ok.1 h
    exact ih hrest (step_keeps_pending hnext hp)

/-- A scan that goes on behind a character does so whatever follows. If it then reads a value, this
character starts it or belongs to it. -/
theorem exists_behind {c : Char} (h : p.scanFrom (done ++ c :: cs) done.length (c :: cs) = .ok q) :
    ∃ next, (∀ rest, p.scanFrom (done ++ c :: rest) done.length (c :: rest) =
        next.scanFrom (done ++ c :: rest) (done.length + 1) rest) ∧
      (next.reading = .value → (c ≠ '>' ∧ next = p) ∨ next.segmentStart = done.length + 1) := by
  by_cases hrun : (kindOf c).isRun = true
  · refine ⟨p, fun rest => scanFrom_cons_run hrun, fun _ => .inl ⟨?_, rfl⟩⟩
    rintro rfl
    cases hrun
  · have hsign : (kindOf c).isRun = false := by simpa using hrun
    rw [scanFrom_cons hsign] at h
    obtain ⟨next, hnext, -⟩ := Outcome.bind_eq_ok.1 h
    refine ⟨next, ?_, ?_⟩
    · intro rest
      have hstep : step (done ++ c :: rest) p ⟨kindOf c, [c], done.length⟩ = .ok next := by
        rw [← hnext]
        apply step_congr
        rw [List.take_left, List.take_left]
      rw [scanFrom_cons hsign, hstep]
      rfl
    · intro hr
      rcases step_to_value hnext hr with ⟨-, hkind, -, hsame⟩ | ⟨-, -, hstart, -⟩
      · refine .inl ⟨?_, hsame ?_⟩
        · rintro rfl
          exact hkind rfl
        · intro hstop
          unfold kindOf at hstop
          repeat' split at hstop
          all_goals cases hstop
      · exact .inr hstart

/-- A scan that ends in a value can be taken up again at the start of the value. -/
theorem scanFrom_resume (h : p.scanFrom (done ++ cs) done.length cs = .ok q)
    (hq : q.reading = .value) : ∃ before value opened, cs = before ++ value ∧ '>' ∉ value ∧
      opened.reading = .value ∧
      (before = [] ∧ opened = p ∨ opened.segmentStart = done.length + before.length) ∧
      ∀ other, p.scanFrom (done ++ (before ++ other)) done.length (before ++ other) =
        opened.scanFrom (done ++ (before ++ other)) (done.length + before.length) other := by
  -- by characters: the value starts where it does in the rest of the line, or at this character
  induction cs generalizing done p with
  | nil =>
    rw [scanFrom_nil] at h
    rcases step_to_value h hq with ⟨hr, -⟩ | ⟨-, hkind, -, -⟩
    · exact ⟨[], [], p, rfl, List.not_mem_nil, hr, .inl ⟨rfl, rfl⟩, fun _ => rfl⟩
    · cases hkind
  | cons c cs ih =>
    obtain ⟨next, hnext, hvalue⟩ := exists_behind h
    have hdone : (done ++ [c]).length = done.length + 1 := List.length_append
    have hline (rest : List Char) : done ++ c :: rest = done ++ [c] ++ rest := by simp
    rw [hnext, hline, ← hdone] at h
    obtain ⟨before, value, opened, rfl, hgreater, hr, hstart, hother⟩ := ih h
    rcases hstart with ⟨rfl, rfl⟩ | hstart
    · rcases hvalue hr with ⟨hc, rfl⟩ | hstart
      · refine ⟨[], c :: value, opened, rfl, ?_, hr, .inl ⟨rfl, rfl⟩, fun _ => rfl⟩
        rw [List.mem_cons, not_or]
        exact ⟨Ne.symm hc, hgreater⟩
      · exact ⟨[c], value, opened, rfl, hgreater, hr, .inr hstart, hnext⟩
    · refine ⟨c :: before, value, opened, rfl, hgreater, hr, .inr ?_, ?_⟩
      · rw [hstart, hdone, List.length_cons]
        omega
      · intro other
        have hlen : done.length + (c :: before).length = (done ++ [c]).length + before.length := by
          rw [hdone, List.length_cons]
          omega
        rw [List.cons_append, hnext, hline, ← hdone, hother, hlen]

private theorem scanFrom_value {value : List Char} (hr : p.reading = .value)
    (hs : source.drop p.segmentStart = value) (hvalue : '>' ∉ value) :
    p.scanFrom source p.segmentStart value = .ok (p.assign value) := by
  have hword : p.segment source ⟨.stop, [], p.segmentStart + value.length⟩ = trimmed value :=
    segment_eq (by rw [hs, List.append_nil]) rfl
  rw [scanFrom_of_not_mem_ends (hr ▸ not_mem_ends_value hvalue)]
  simp only [step, hr, hword, assign, reduceCtorEq, if_false]

end Progress

theorem entry?_of_scan {s : String} {p : Progress} {value : List Char}
    (h : scan s = .ok (p.assign value)) : entry? s = some ⟨p.typeWord, p.name,
      Fields.erase (p.pending.getD "") p.assignments ++ [(p.pending.getD "", trimmed value)]⟩ := by
  unfold entry?
  rw [h]
  rfl

private theorem scan_of_at {blanks : List Char} (hblanks : ∀ c ∈ blanks, isBlank c = true)
    (body : List Char) : scan (String.ofList (blanks ++ '@' :: body)) =
      Progress.scanFrom (blanks ++ '@' :: body) { segmentStart := blanks.length + 1 }
        (blanks.length + 1) body := by
  obtain ⟨ts, hts, htokens⟩ := tokensFrom_append blanks ('@' :: body) 0 (by
    intro c _ d hd
    cases hd
    exact TokenKind.goesOn_of_not_isRun rfl)
  have hdrop : (ts ++ tokensFrom (0 + blanks.length) ('@' :: body)).dropWhile (·.kind = .blank) =
      tokensFrom (0 + blanks.length) ('@' :: body) := by
    rw [List.dropWhile_append_of_pos]
    · rw [tokensFrom_sign rfl]
      rfl
    · intro t ht
      obtain ⟨c, hc, hkind⟩ := hts t ht
      simp [hkind, kindOf_eq_blank_iff.2 (hblanks c hc)]
  rw [scan, tokenize, String.toList_ofList, htokens, hdrop, tokensFrom_sign rfl, Nat.zero_add]
  rfl

private theorem exists_at_of_scan {s : String} {q : Progress} (h : scan s = .ok q) :
    ∃ blanks body, s.toList = blanks ++ '@' :: body ∧ ∀ c ∈ blanks, isBlank c = true := by
  have hsome : entry? s ≠ none := by
    unfold entry?
    rw [h]
    exact Option.some_ne_none _
  obtain ⟨body, hbody⟩ : ∃ body, trimStart s.toList = '@' :: body := by
    by_contra hnone
    exact hsome <| entry?_of_not_at fun body hbody => hnone ⟨body, hbody⟩
  refine ⟨s.toList.takeWhile isBlank, body, ?_, fun c hc => List.mem_takeWhile_imp hc⟩
  rw [← hbody]
  exact List.takeWhile_append_dropWhile.symm

/-- The progress at the start of a value, behind a beginning of a line: a scan comes there whatever
follows. -/
structure OpensValue (before : List Char) (opened : Progress) : Prop where
  reading : opened.reading = .value
  start : opened.segmentStart = before.length
  resume : ∀ other, scan (String.ofList (before ++ other)) =
    opened.scanFrom (before ++ other) before.length other

namespace OpensValue

variable {before value : List Char} {opened q : Progress}

/-- Up to the end of the line the value is assigned, whatever it is. -/
theorem scan_eq (h : OpensValue before opened) (hvalue : '>' ∉ value) :
    scan (String.ofList (before ++ value)) = .ok (opened.assign value) := by
  rw [h.resume, ← h.start]
  apply Progress.scanFrom_value h.reading _ hvalue
  rw [h.start, List.drop_left]

theorem reading_ne_of_greater (h : OpensValue before opened) (hvalue : '>' ∉ value)
    (hscan : scan (String.ofList (before ++ (value ++ ['>']))) = .ok q) : q.reading ≠ .value := by
  intro hq
  have hseg : ∀ c ∈ value, c ∉ opened.reading.ends := h.reading ▸ not_mem_ends_value hvalue
  rw [h.resume, Progress.scanFrom_append_cons hseg rfl] at hscan
  obtain ⟨next, hnext, hstop⟩ := Outcome.bind_eq_ok.1 hscan
  rw [Progress.scanFrom_nil] at hstop
  rcases Progress.step_to_value hstop hq with ⟨hr, -⟩ | ⟨-, hkind, -, -⟩
  · rcases Progress.step_to_value hnext hr with ⟨-, hkind, -, -⟩ | ⟨-, hkind, -, -⟩
    · exact hkind rfl
    · cases hkind
  · cases hkind

end OpensValue

/-- A line that ends in a value can be taken up again at the start of the value. -/
theorem exists_opensValue {s : String} {q : Progress} (h : scan s = .ok q)
    (hq : q.reading = .value) : ∃ before value, ∃ opened : Progress, s.toList = before ++ value ∧
      '>' ∉ value ∧ q = opened.assign value ∧ OpensValue before opened := by
  obtain ⟨blanks, body, hs, hblanks⟩ := exists_at_of_scan h
  let done := blanks ++ ['@']
  have hdone : done.length = blanks.length + 1 := List.length_append
  have hscan (body : List Char) : scan (String.ofList (done ++ body)) =
      Progress.scanFrom (done ++ body) { segmentStart := done.length } done.length body := by
    have hline : done ++ body = blanks ++ '@' :: body := List.append_assoc blanks ['@'] body
    rw [hline, hdone]
    exact scan_of_at hblanks body
  have hs' : s = String.ofList (done ++ body) := by
    rw [← @String.ofList_toList s, hs]
    exact congrArg String.ofList (List.append_assoc blanks ['@'] body).symm
  have hbody := h
  rw [hs', hscan] at hbody
  obtain ⟨before, value, opened, rfl, hvalue, hr, hstart, hother⟩ :=
    Progress.scanFrom_resume hbody hq
  have hlen : (done ++ before).length = done.length + before.length := List.length_append
  have hopens : OpensValue (done ++ before) opened := by
    refine ⟨hr, ?_, fun other => ?_⟩
    · rcases hstart with ⟨-, rfl⟩ | hstart
      · cases hr
      · rw [hstart, hlen]
    · rw [List.append_assoc, hscan, hother, hlen]
  have hline : s = String.ofList (done ++ before ++ value) := by
    rw [hs', List.append_assoc done before value]
  refine ⟨done ++ before, value, opened, ?_, hvalue, ?_, hopens⟩
  · rw [hline, String.toList_ofList]
  · rw [hline, hopens.scan_eq hvalue] at h
    exact (Except.ok.inj h).symm

/-- With any other value there, the scan gives the same progress but for this value. -/
theorem exists_value {s : String} {q : Progress} (h : scan s = .ok q) (hq : q.reading = .value) :
    ∃ before value, ∃ opened : Progress, s.toList = before ++ value ∧ '>' ∉ value ∧
      opened.reading = .value ∧ opened.segmentStart = before.length ∧ q = opened.assign value ∧
      ∀ other, '>' ∉ other →
        scan (String.ofList (before ++ other)) = .ok (opened.assign other) := by
  obtain ⟨before, value, opened, hs, hvalue, hsame, hopens⟩ := exists_opensValue h hq
  exact ⟨before, value, opened, hs, hvalue, hopens.reading, hopens.start, hsame,
    fun _ hother => hopens.scan_eq hother⟩

/-- The property of the value at the end of a line is pending. -/
theorem exists_pending {s : String} {q : Progress} (h : scan s = .ok q) (hq : q.reading = .value) :
    ∃ property, q.pending = some property := by
  obtain ⟨blanks, body, hs, hblanks⟩ := exists_at_of_scan h
  rw [← @String.ofList_toList s, hs, scan_of_at hblanks] at h
  refine Progress.foldlM_keeps_pending h ?_ hq
  intro hr
  cases hr

end Cuaderno.QuickEntry
