/-!
Blank characters, those of the Unicode property `White_Space`, and the trimming of texts.
Main statements: trimming leaves no blank at either end, and a second trim changes nothing.
-/
namespace FluentQuery.Text

/-- A character of the property `White_Space`. -/
def isBlank (c : Char) : Bool :=
  let n := c.toNat
  (9 ≤ n && n ≤ 13) || n == 0x20 || n == 0x85 || n == 0xA0 || n == 0x1680 ||
    (0x2000 ≤ n && n ≤ 0x200A) || n == 0x2028 || n == 0x2029 || n == 0x202F || n == 0x205F ||
    n == 0x3000

def trimFront (cs : List Char) : List Char := cs.dropWhile isBlank

def trimBack (cs : List Char) : List Char := (trimFront cs.reverse).reverse

def trimmed (cs : List Char) : List Char := trimBack (trimFront cs)

def trim (s : String) : String := String.ofList (trimmed s.toList)

/-- A text of blanks only, or of nothing. -/
def blank (s : String) : Bool := s.toList.all isBlank

@[simp] theorem toList_trim (s : String) : (trim s).toList = trimmed s.toList := by
  simp [trim]

/-- No blank stands at either end. -/
def IsTrimmed (cs : List Char) : Prop :=
  (∀ c ∈ cs.head?, isBlank c = false) ∧ ∀ c ∈ cs.getLast?, isBlank c = false

theorem not_isBlank_of_mem_head?_trimFront {cs : List Char} {c : Char}
    (h : c ∈ (trimFront cs).head?) : isBlank c = false := by
  have hfirst := List.head?_dropWhile_not isBlank cs
  rw [show cs.dropWhile isBlank = trimFront cs from rfl, Option.mem_def.1 h] at hfirst
  exact hfirst

theorem trimBack_prefix (cs : List Char) : trimBack cs <+: cs := by
  have h : trimFront cs.reverse <:+ cs.reverse := List.dropWhile_suffix isBlank
  simpa [trimBack] using List.reverse_prefix.2 h

theorem mem_of_mem_trimmed {cs : List Char} {c : Char} (h : c ∈ trimmed cs) : c ∈ cs := by
  have hback := trimBack_prefix (trimFront cs)
  exact (List.dropWhile_suffix isBlank).subset (hback.subset h)

theorem isTrimmed_trimmed (cs : List Char) : IsTrimmed (trimmed cs) := by
  constructor
  · intro c hc
    obtain ⟨rest, hrest⟩ := trimBack_prefix (trimFront cs)
    obtain ⟨tail, ht⟩ := List.head?_eq_some_iff.1 (Option.mem_def.1 hc)
    refine @not_isBlank_of_mem_head?_trimFront cs c ?_
    rw [← hrest, show trimBack (trimFront cs) = c :: tail from ht]
    rfl
  · intro c hc
    refine @not_isBlank_of_mem_head?_trimFront (trimFront cs).reverse c ?_
    simpa [trimmed, trimBack] using hc

theorem isTrimmed_cons_append {a b : Char} (ha : isBlank a = false) (hb : isBlank b = false)
    (cs : List Char) : IsTrimmed (a :: (cs ++ [b])) := by
  constructor
  · rintro c ⟨⟩
    exact ha
  · intro c hc
    rw [← List.cons_append, List.getLast?_append] at hc
    cases hc
    exact hb

theorem trimFront_eq_self {cs : List Char} (h : ∀ c ∈ cs.head?, isBlank c = false) :
    trimFront cs = cs := by
  cases cs with
  | nil => rfl
  | cons c cs => rw [trimFront, List.dropWhile_cons_of_neg (by simpa using h c)]

theorem trimmed_eq_self {cs : List Char} (h : IsTrimmed cs) : trimmed cs = cs := by
  have hback : trimFront cs.reverse = cs.reverse := trimFront_eq_self (by simpa using h.2)
  rw [trimmed, trimFront_eq_self h.1, trimBack, hback, List.reverse_reverse]

theorem trim_eq_self {s : String} (h : IsTrimmed s.toList) : trim s = s := by
  rw [trim, trimmed_eq_self h, String.ofList_toList]

theorem trimmed_isInfix (cs : List Char) : trimmed cs <:+: cs := by
  have hback := trimBack_prefix (trimFront cs)
  exact hback.isInfix.trans (List.dropWhile_suffix isBlank).isInfix

theorem trimFront_append {front : List Char} (h : ∀ c ∈ front, isBlank c = true)
    (cs : List Char) : trimFront (front ++ cs) = trimFront cs := List.dropWhile_append_of_pos h

theorem trimBack_append {back : List Char} (h : ∀ c ∈ back, isBlank c = true) (cs : List Char) :
    trimBack (cs ++ back) = trimBack cs := by
  rw [trimBack, List.reverse_append, trimFront_append (by simpa using h), trimBack]

theorem trimmed_append {front back : List Char} (hfront : ∀ c ∈ front, isBlank c = true)
    (hback : ∀ c ∈ back, isBlank c = true) (cs : List Char) :
    trimmed (front ++ cs ++ back) = trimmed cs := by
  rw [trimmed, List.append_assoc, trimFront_append hfront, trimFront, List.dropWhile_append]
  split
  · next hempty =>
    have hcs : trimFront cs = [] := List.isEmpty_iff.1 hempty
    have hnil := trimFront_append hback []
    rw [List.append_nil] at hnil
    rw [trimmed, hcs, ← trimFront, hnil]
    rfl
  · rw [trimBack_append hback, trimmed, trimFront]

theorem trimFront_eq_nil_iff {cs : List Char} :
    trimFront cs = [] ↔ ∀ c ∈ cs, isBlank c = true := by
  induction cs with
  | nil => simp [trimFront]
  | cons c cs ih =>
    rw [List.forall_mem_cons, ← ih, trimFront, List.dropWhile_cons]
    split
    · next hc => simp [hc, trimFront]
    · next hc => simp [hc]

theorem trimmed_eq_nil_iff {cs : List Char} :
    trimmed cs = [] ↔ ∀ c ∈ cs, isBlank c = true := by
  constructor
  · intro h
    have hall : ∀ c ∈ trimFront cs, isBlank c = true := by
      simpa using trimFront_eq_nil_iff.1 (List.reverse_eq_nil_iff.1 h)
    refine trimFront_eq_nil_iff.1 (List.eq_nil_iff_forall_not_mem.2 fun c hc => ?_)
    obtain ⟨d, rest, hd⟩ := List.exists_cons_of_ne_nil (List.ne_nil_of_mem hc)
    have hblank := @not_isBlank_of_mem_head?_trimFront cs d (by rw [hd]; rfl)
    rw [hall d (hd ▸ List.mem_cons_self)] at hblank
    cases hblank
  · intro h
    rw [trimmed, trimFront_eq_nil_iff.2 h]
    rfl

theorem trim_eq_empty_iff {s : String} : trim s = "" ↔ blank s = true := by
  rw [blank, List.all_eq_true, ← trimmed_eq_nil_iff, ← toList_trim, String.toList_eq_nil_iff]

end FluentQuery.Text
