import Mathlib.Algebra.Order.Ring.Int
import Mathlib.Data.List.Basic

/-!
# Lines and fields of a byte string

`rawLines` cuts a byte string after every newline and marks whether a line had one; only the last
may not.  `rawLines_append` says that a text which ends in a newline does not change how what
follows it is cut.  Fields are cut with `List.splitOn`, which undoes `untab`; a prefix or suffix is
taken off with `stripPrefix` and `stripSuffix`.
-/

namespace Kerber

open List

variable {s : List UInt8}

def newline : UInt8 := 10
def tab : UInt8 := 9
def carriageReturn : UInt8 := 13

/-! ### Prefixes and suffixes -/

def stripPrefix : List UInt8 → List UInt8 → Option (List UInt8)
  | [], s => some s
  | _ :: _, [] => none
  | p :: ps, b :: s => if p = b then stripPrefix ps s else none

/-- A byte string without its last byte when that is `b`. -/
def stripSuffix (b : UInt8) (s : List UInt8) : List UInt8 :=
  if s.getLast? = some b then s.dropLast else s

@[simp] theorem stripPrefix_append (p s : List UInt8) : stripPrefix p (p ++ s) = some s := by
  induction p with
  | nil => rfl
  | cons b p ih => rw [cons_append, stripPrefix, if_pos rfl, ih]

theorem stripPrefix_eq_some {p rest : List UInt8} (h : stripPrefix p s = some rest) :
    s = p ++ rest := by
  fun_induction stripPrefix p s with
  | case1 s => exact Option.some.inj h
  | case2 => cases h
  | case3 b ps s ih => rw [ih h, cons_append]
  | case4 => cases h

theorem stripPrefix_eq_none_of_ne {p q : UInt8} (ps s : List UInt8) (h : p ≠ q) :
    stripPrefix (p :: ps) (q :: s) = none :=
  if_neg h

theorem stripSuffix_append_self (b : UInt8) (s : List UInt8) : stripSuffix b (s ++ [b]) = s := by
  rw [stripSuffix, if_pos (by simp), dropLast_concat]

theorem stripSuffix_of_ne {b : UInt8} (h : s.getLast? ≠ some b) : stripSuffix b s = s :=
  if_neg h

/-! ### Lines -/

/-- The lines of a text without their newlines, and whether each had one. -/
def rawLines : List UInt8 → List (List UInt8 × Bool)
  | [] => []
  | b :: rest =>
    if b = newline then ([], true) :: rawLines rest
    else
      match rawLines rest with
      | [] => [([b], false)]
      | (line, whole) :: lines => (b :: line, whole) :: lines

/-- A text that is empty or ends in a newline. -/
def EndsLine (s : List UInt8) : Prop :=
  s.getLast? = none ∨ s.getLast? = some newline

instance (s : List UInt8) : Decidable (EndsLine s) :=
  inferInstanceAs (Decidable (_ ∨ _))

theorem endsLine_nil : EndsLine [] := .inl rfl

theorem endsLine_append_newline (s : List UInt8) : EndsLine (s ++ [newline]) :=
  .inr (by simp)

theorem EndsLine.append {t : List UInt8} (hs : EndsLine s) (ht : EndsLine t) :
    EndsLine (s ++ t) := by
  cases t with
  | nil => rwa [append_nil]
  | cons b t =>
    have hlast : (s ++ b :: t).getLast? = (b :: t).getLast? :=
      getLast?_append_of_ne_nil _ (cons_ne_nil _ _)
    unfold EndsLine at ht ⊢
    rw [hlast]
    exact ht

theorem EndsLine.tail {b : UInt8} (h : EndsLine (b :: s)) : EndsLine s := by
  cases s with
  | nil => exact endsLine_nil
  | cons c s =>
    unfold EndsLine at h ⊢
    rwa [getLast?_cons_cons] at h

@[simp] theorem rawLines_newline (rest : List UInt8) :
    rawLines (newline :: rest) = ([], true) :: rawLines rest :=
  if_pos rfl

theorem rawLines_ne_nil (h : s ≠ []) : rawLines s ≠ [] := by
  cases s with
  | nil => exact absurd rfl h
  | cons b rest =>
    rw [rawLines]
    split
    · exact cons_ne_nil _ _
    · split <;> exact cons_ne_nil _ _

/-- **A text that ends in a newline does not change how the rest is cut.** -/
theorem rawLines_append (h : EndsLine s) (rest : List UInt8) :
    rawLines (s ++ rest) = rawLines s ++ rawLines rest := by
  induction s with
  | nil => rfl
  | cons b s ih =>
    have ih := ih h.tail
    by_cases hb : b = newline
    · subst hb
      rw [cons_append, rawLines_newline, rawLines_newline, ih, cons_append]
    · -- a last byte that is not a newline would not end the line
      have hs : s ≠ [] := by
        rintro rfl
        rcases h with h | h
        · cases h
        · exact hb (Option.some.inj h)
      rw [cons_append, rawLines, if_neg hb, rawLines, if_neg hb, ih]
      cases hlines : rawLines s with
      | nil => exact absurd hlines (rawLines_ne_nil hs)
      | cons line lines => rfl

theorem rawLines_line (h : newline ∉ s) (rest : List UInt8) :
    rawLines (s ++ newline :: rest) = (s, true) :: rawLines rest := by
  induction s with
  | nil => exact rawLines_newline rest
  | cons b s ih =>
    have hb : b ≠ newline := fun heq => h (heq ▸ mem_cons_self)
    have hs : newline ∉ s := fun hmem => h (mem_cons_of_mem _ hmem)
    rw [cons_append, rawLines, if_neg hb, ih hs]

theorem rawLines_unfinished (h : newline ∉ s) (hne : s ≠ []) : rawLines s = [(s, false)] := by
  induction s with
  | nil => exact absurd rfl hne
  | cons b s ih =>
    have hb : b ≠ newline := fun heq => h (heq ▸ mem_cons_self)
    have hs : newline ∉ s := fun hmem => h (mem_cons_of_mem _ hmem)
    rw [rawLines, if_neg hb]
    cases s with
    | nil => rfl
    | cons c s => rw [ih hs (cons_ne_nil _ _)]

/-- A line put back together. -/
def unline (line : List UInt8 × Bool) : List UInt8 :=
  line.1 ++ if line.2 then [newline] else []

theorem flatMap_unline_rawLines (s : List UInt8) : (rawLines s).flatMap unline = s := by
  induction s with
  | nil => rfl
  | cons b s ih =>
    rw [rawLines]
    split
    · rename_i hb
      rw [flatMap_cons, ih, hb]
      rfl
    · split
      · rename_i hlines
        rw [hlines] at ih
        rw [← ih]
        rfl
      · rename_i first whole lines hlines
        rw [hlines, flatMap_cons] at ih
        rw [flatMap_cons, ← ih]
        rfl

/-- Lines as a text is cut into them: only the last may lack its newline, and then it is not
empty. -/
def AreLines : List (List UInt8 × Bool) → Prop
  | [] => True
  | (line, whole) :: rest =>
    newline ∉ line ∧ (whole = true ∨ line ≠ [] ∧ rest = []) ∧ AreLines rest

theorem areLines_rawLines (s : List UInt8) : AreLines (rawLines s) := by
  induction s with
  | nil => trivial
  | cons b s ih =>
    rw [rawLines]
    split
    · exact ⟨not_mem_nil, .inl rfl, ih⟩
    · rename_i hb
      split
      · exact ⟨fun hmem => hb (mem_singleton.mp hmem).symm, .inr ⟨cons_ne_nil _ _, rfl⟩, trivial⟩
      · rename_i line whole lines hlines
        rw [hlines] at ih
        obtain ⟨hline, hlast, hrest⟩ := ih
        refine ⟨?_, hlast.imp_right fun h => ⟨cons_ne_nil _ _, h.2⟩, hrest⟩
        rintro (_ | ⟨_, hmem⟩)
        · exact hb rfl
        · exact hline hmem

/-- **Such lines are cut where they were joined.** -/
theorem rawLines_flatMap_unline {raws : List (List UInt8 × Bool)} (h : AreLines raws) :
    rawLines (raws.flatMap unline) = raws := by
  induction raws with
  | nil => rfl
  | cons raw raws ih =>
    obtain ⟨line, whole⟩ := raw
    obtain ⟨hline, hlast, hrest⟩ := h
    cases whole with
    | true =>
      have hunline : unline (line, true) = line ++ [newline] := rfl
      rw [flatMap_cons, hunline, append_assoc, singleton_append,
        rawLines_line hline, ih hrest]
    | false =>
      obtain ⟨hne, rfl⟩ := hlast.resolve_left Bool.false_ne_true
      have hunline : [(line, false)].flatMap unline = line := by simp [unline]
      rw [hunline, rawLines_unfinished hline hne]

theorem AreLines.of_append {raws more : List (List UInt8 × Bool)} (h : AreLines (raws ++ more)) :
    AreLines raws ∧ AreLines more := by
  induction raws with
  | nil => exact ⟨trivial, h⟩
  | cons raw raws ih =>
    obtain ⟨hline, hlast, hrest⟩ := h
    obtain ⟨hraws, hmore⟩ := ih hrest
    refine ⟨⟨hline, hlast.imp_right fun hend => ⟨hend.1, ?_⟩, hraws⟩, hmore⟩
    exact (append_eq_nil_iff.mp hend.2).1

/-- **A text cut between two of its lines** has those before the cut and those behind it. -/
theorem rawLines_split {front back : List (List UInt8 × Bool)} (h : rawLines s = front ++ back) :
    s = front.flatMap unline ++ back.flatMap unline ∧
      rawLines (front.flatMap unline) = front ∧ rawLines (back.flatMap unline) = back := by
  obtain ⟨hfront, hback⟩ := (h ▸ areLines_rawLines s : AreLines (front ++ back)).of_append
  refine ⟨?_, rawLines_flatMap_unline hfront, rawLines_flatMap_unline hback⟩
  rw [← flatMap_append, ← h, flatMap_unline_rawLines]

/-- Bytes without a newline in front of a text lengthen its first line. -/
theorem rawLines_glue {t l : List UInt8} {whole : Bool} {lines : List (List UInt8 × Bool)}
    (hs : newline ∉ s) (ht : rawLines t = (l, whole) :: lines) :
    rawLines (s ++ t) = (s ++ l, whole) :: lines := by
  induction s with
  | nil => exact ht
  | cons b s ih =>
    have hb : b ≠ newline := fun heq => hs (heq ▸ mem_cons_self)
    have ih := ih fun hmem => hs (mem_cons_of_mem _ hmem)
    rw [cons_append, rawLines, if_neg hb, ih, cons_append]

theorem exists_endsLine_append (s : List UInt8) :
    ∃ base last, s = base ++ last ∧ EndsLine base ∧ newline ∉ last := by
  induction s with
  | nil => exact ⟨[], [], rfl, endsLine_nil, not_mem_nil⟩
  | cons b s ih =>
    obtain ⟨base, last, rfl, hbase, hlast⟩ := ih
    cases base with
    | nil =>
      by_cases hb : b = newline
      · exact ⟨[b], last, rfl, .inr (by rw [hb]; rfl), hlast⟩
      · refine ⟨[], b :: last, rfl, endsLine_nil, ?_⟩
        rintro (_ | ⟨_, hmem⟩)
        · exact hb rfl
        · exact hlast hmem
    | cons c base =>
      refine ⟨b :: c :: base, last, rfl, ?_, hlast⟩
      unfold EndsLine at hbase ⊢
      rwa [getLast?_cons_cons]

/-- Lines with a newline behind each. -/
def unlines (lines : List (List UInt8)) : List UInt8 :=
  lines.flatMap fun l => l ++ [newline]

@[simp] theorem unlines_nil : unlines [] = [] := rfl

@[simp] theorem unlines_cons (l : List UInt8) (lines : List (List UInt8)) :
    unlines (l :: lines) = l ++ newline :: unlines lines := by
  rw [unlines, flatMap_cons, append_assoc]
  rfl

@[simp] theorem unlines_append (lines more : List (List UInt8)) :
    unlines (lines ++ more) = unlines lines ++ unlines more :=
  flatMap_append

theorem endsLine_unlines (lines : List (List UInt8)) : EndsLine (unlines lines) := by
  induction lines with
  | nil => exact endsLine_nil
  | cons l lines ih =>
    have hcons : unlines (l :: lines) = (l ++ [newline]) ++ unlines lines := by simp
    rw [hcons]
    exact (endsLine_append_newline l).append ih

/-- **Lines that hold no newline are cut where they were joined.** -/
theorem rawLines_unlines {lines : List (List UInt8)} (h : ∀ l ∈ lines, newline ∉ l) :
    rawLines (unlines lines) = lines.map fun l => (l, true) := by
  induction lines with
  | nil => rfl
  | cons l lines ih =>
    have ih := ih fun m hm => h m (mem_cons_of_mem _ hm)
    rw [unlines_cons, rawLines_line (h l mem_cons_self), ih, map_cons]

/-- The line a text was cut in, when it was not cut at its start. -/
def partialLine (l : List UInt8) : List (List UInt8 × Bool) :=
  if l = [] then [] else [(l, false)]

theorem rawLines_unfinishedLine {l : List UInt8} (h : newline ∉ l) : rawLines l = partialLine l := by
  by_cases hl : l = []
  · subst hl
    rfl
  · rw [rawLines_unfinished h hl, partialLine, if_neg hl]

/-- **A first part of some lines is some of them whole and a first part of the next.** -/
theorem rawLines_take_unlines {lines : List (List UInt8)} (h : ∀ l ∈ lines, newline ∉ l) {k : Nat}
    (hk : k < (unlines lines).length) :
    ∃ front l back, lines = front ++ l :: back ∧ ∃ j ≤ l.length,
      k = (unlines front).length + j ∧
      rawLines ((unlines lines).take k) = (front.map fun m => (m, true)) ++ partialLine (l.take j) := by
  induction lines generalizing k with
  | nil => exact absurd hk (Nat.not_lt_zero k)
  | cons l lines ih =>
    have hl : newline ∉ l := h l mem_cons_self
    by_cases hfits : k ≤ l.length
    · -- the text is cut in the first line or right behind it
      refine ⟨[], l, lines, rfl, k, hfits, by simp, ?_⟩
      rw [unlines_cons, take_append_of_le_length hfits, map_nil, nil_append]
      exact rawLines_unfinishedLine fun hmem => hl (mem_of_mem_take hmem)
    · obtain ⟨j, rfl⟩ : ∃ j, k = l.length + 1 + j := ⟨k - (l.length + 1), by omega⟩
      have hj : j < (unlines lines).length := by
        rw [unlines_cons, length_append, length_cons] at hk
        omega
      obtain ⟨front, m, back, hlines, i, hi, hlen, hraw⟩ :=
        ih (fun m hm => h m (mem_cons_of_mem _ hm)) hj
      have htake : (unlines (l :: lines)).take (l.length + 1 + j)
          = l ++ newline :: (unlines lines).take j := by
        rw [unlines_cons, Nat.add_assoc, take_length_add_append, Nat.add_comm 1 j,
          take_succ_cons]
      refine ⟨l :: front, m, back, by rw [hlines, cons_append], i, hi, ?_, ?_⟩
      · rw [unlines_cons, length_append, length_cons]
        omega
      · rw [htake, rawLines_line hl, hraw, map_cons, cons_append]

/-! ### Fields -/

/-- Fields with a tab behind each. -/
def untab (fields : List (List UInt8)) : List UInt8 :=
  fields.flatMap fun f => f ++ [tab]

@[simp] theorem untab_nil : untab [] = [] := rfl

@[simp] theorem untab_cons (f : List UInt8) (fields : List (List UInt8)) :
    untab (f :: fields) = f ++ tab :: untab fields := by
  rw [untab, flatMap_cons, append_assoc]
  rfl

@[simp] theorem untab_append (fields more : List (List UInt8)) :
    untab (fields ++ more) = untab fields ++ untab more :=
  flatMap_append

theorem untab_flatMap {α : Type} (xs : List α) (f : α → List (List UInt8)) :
    untab (xs.flatMap f) = xs.flatMap fun x => untab (f x) := by
  induction xs with
  | nil => rfl
  | cons x xs ih => rw [flatMap_cons, flatMap_cons, untab_append, ih]

/-- **Fields without tabs are cut where they were joined.** -/
theorem splitOn_untab {fields : List (List UInt8)} {last : List UInt8}
    (h : ∀ f ∈ fields, tab ∉ f) (hlast : tab ∉ last) :
    (untab fields ++ last).splitOn tab = fields ++ [last] := by
  induction fields with
  | nil =>
    have hone : ∀ l ∈ [last], tab ∉ l := fun l hl => mem_singleton.mp hl ▸ hlast
    have := splitOn_intercalate tab hone (cons_ne_nil _ _)
    rwa [intercalate_singleton] at this
  | cons f fields ih =>
    have hf : ∀ x ∈ f, (x == tab) = false := by
      intro x hx
      rw [beq_eq_false_iff_ne]
      rintro rfl
      exact h f mem_cons_self hx
    have ih := ih fun g hg => h g (mem_cons_of_mem _ hg)
    rw [untab_cons, append_assoc, cons_append, splitOn,
      splitOnP_append_cons_of_forall_mem hf tab (by simp), cons_append]
    exact congrArg (f :: ·) ih

end Kerber
