import FluentQuery.Sql.Token

/-!
Reading back the lexemes of a text that was put together from names, quoted names, marks and
parameters. Main statement: where each of them may stand in front of what follows it, the text has
just these lexemes.
-/
namespace FluentQuery.Sql

def isPlainName : List Char → Bool
  | [] => false
  | c :: cs => (c.isAlpha || c = '_') && cs.all fun c => c.isAlphanum || c = '_'

namespace Lexeme

def chars (lexeme : Lexeme) : List Char := lexeme.text ++ lexeme.gap

def pieces (lexeme : Lexeme) : List (Option Token × List Char) :=
  (some lexeme.token, lexeme.text) :: if lexeme.gap = [] then [] else [(none, lexeme.gap)]

structure Stands (lexeme : Lexeme) (rest : List Char) : Prop where
  text_ne_nil : lexeme.text ≠ []
  token : piece? (lexeme.text ++ (lexeme.gap ++ rest)) =
    some (lexeme.text.length - 1, some (some lexeme.token, lexeme.text))
  gap : lexeme.gap ≠ [] →
    piece? (lexeme.gap ++ rest) = some (lexeme.gap.length - 1, some (none, lexeme.gap))

end Lexeme

/-- Each of the lexemes is read where it stands, and these characters follow the last. -/
def Chain : List Lexeme → List Char → Prop
  | [], _ => True
  | lexeme :: lexemes, rest =>
    lexeme.Stands (lexemes.flatMap Lexeme.chars ++ rest) ∧ Chain lexemes rest

theorem Chain.append {first second : List Lexeme} {rest : List Char}
    (h : Chain first (second.flatMap Lexeme.chars ++ rest)) (h' : Chain second rest) :
    Chain (first ++ second) rest := by
  induction first with
  | nil => exact h'
  | cons lexeme first ih =>
    have hstands := h.1
    rw [← List.append_assoc, ← List.flatMap_append] at hstands
    exact ⟨hstands, ih h.2⟩

theorem Lexeme.Stands.tokensFrom {lexeme : Lexeme} {rest : List Char} (h : lexeme.Stands rest) :
    Text.tokensFrom piece? 0 (lexeme.chars ++ rest) =
      (Text.tokensFrom piece? 0 rest).map (lexeme.pieces ++ ·) := by
  rw [chars, List.append_assoc, Text.tokensFrom_append h.text_ne_nil h.token, pieces]
  by_cases hgap : lexeme.gap = []
  · simp [hgap]
  · rw [Text.tokensFrom_append hgap (h.gap hgap), if_neg hgap, Option.map_map]
    rfl

theorem Chain.tokensFrom {lexemes : List Lexeme} {rest : List Char} (h : Chain lexemes rest) :
    Text.tokensFrom piece? 0 (lexemes.flatMap Lexeme.chars ++ rest) =
      (Text.tokensFrom piece? 0 rest).map (lexemes.flatMap Lexeme.pieces ++ ·) := by
  induction lexemes with
  | nil => simp
  | cons lexeme lexemes ih =>
    rw [List.flatMap_cons, List.append_assoc, h.1.tokensFrom, ih h.2, Option.map_map]
    simp [Function.comp_def]

theorem joinGaps_pieces (lexemes : List Lexeme) {more : List (Option Token × List Char)}
    (hmore : takeGaps more = ([], more)) :
    joinGaps (lexemes.flatMap Lexeme.pieces ++ more) = lexemes ++ joinGaps more := by
  induction lexemes with
  | nil => rfl
  | cons lexeme lexemes ih =>
    have htake : takeGaps (lexemes.flatMap Lexeme.pieces ++ more) =
        ([], lexemes.flatMap Lexeme.pieces ++ more) := by
      cases lexemes with
      | nil => exact hmore
      | cons => rfl
    obtain ⟨token, text, gap⟩ := lexeme
    by_cases hgap : gap = []
    · subst hgap
      simp [Lexeme.pieces, joinGaps, htake, ih]
    · simp [Lexeme.pieces, hgap, joinGaps, takeGaps, htake, ih]

/-! When the several kinds of lexemes stand. -/

theorem alphanum_of_mem_plain {c : Char} {cs : List Char} (h : isPlainName cs = true)
    (hc : c ∈ cs) : c.isAlphanum = true ∨ c = '_' := by
  cases cs with
  | nil => cases hc
  | cons d ds =>
    simp only [isPlainName, Bool.and_eq_true, Bool.or_eq_true, List.all_eq_true,
      decide_eq_true_eq] at h
    rcases List.mem_cons.1 hc with rfl | hc
    · exact h.1.imp_left fun ha => by simp [Char.isAlphanum, ha]
    · exact h.2 c hc

theorem isNameChar_of_mem {c : Char} {cs : List Char} (h : isPlainName cs = true) (hc : c ∈ cs) :
    isNameChar c = true := by
  rcases alphanum_of_mem_plain h hc with hword | rfl
  · rw [Char.isAlphanum, Bool.or_eq_true] at hword
    rcases hword with ha | hd
    · simp [isNameChar, isNameStart, ha]
    · simp [isNameChar, hd]
  · rfl

theorem gap?_eq_none {c : Char} {cs : List Char} (hdash : c ≠ '-') (hslash : c ≠ '/')
    (hblank : isNumeralBlank c = false) (hmark : c ≠ '\ufeff') : gap? (c :: cs) = none := by
  unfold gap?
  split
  · next h => exact absurd (List.cons.inj h).1 hdash
  · next h => exact absurd (List.cons.inj h).1 hslash
  · next c' cs' h1 h2 h =>
    cases h
    simp [hblank, hmark]
  · rfl

theorem isAlpha_iff (c : Char) : c.isAlpha = true ↔
    (65 ≤ c.toNat ∧ c.toNat ≤ 90) ∨ (97 ≤ c.toNat ∧ c.toNat ≤ 122) := by
  have hupper : c.isUpper = true ↔ 65 ≤ c.toNat ∧ c.toNat ≤ 90 := decide_eq_true_iff
  have hlower : c.isLower = true ↔ 97 ≤ c.toNat ∧ c.toNat ≤ 122 :=
    Bool.and_eq_true_iff.trans (and_congr decide_eq_true_iff decide_eq_true_iff)
  rw [← hupper, ← hlower]
  exact Bool.or_eq_true_iff

theorem isDigit_iff (c : Char) : c.isDigit = true ↔ 48 ≤ c.toNat ∧ c.toNat ≤ 57 :=
  Bool.and_eq_true_iff.trans (and_congr decide_eq_true_iff decide_eq_true_iff)

theorem toNat_of_mem_plain {c : Char} {cs : List Char} (h : isPlainName cs = true) (hc : c ∈ cs) :
    48 ≤ c.toNat ∧ c.toNat ≤ 122 := by
  rcases alphanum_of_mem_plain h hc with hword | rfl
  · rw [Char.isAlphanum, Bool.or_eq_true, isAlpha_iff, isDigit_iff] at hword
    omega
  · decide

theorem not_isNumeralBlank_of_plain {c : Char} {cs : List Char} (h : isPlainName cs = true)
    (hc : c ∈ cs) : isNumeralBlank c = false := by
  have hlow := (toNat_of_mem_plain h hc).1
  have hne : c ≠ ' ' := by
    rintro rfl
    exact absurd hlow (by decide)
  simp [isNumeralBlank, hne]
  omega

theorem gap?_blank {rest : List Char} (h : rest.head?.all (fun c => !isNumeralBlank c) = true) :
    gap? (' ' :: rest) = some 0 := by
  have htake : rest.takeWhile isNumeralBlank = [] := by
    cases rest with
    | nil => rfl
    | cons c rest => exact List.takeWhile_cons_of_neg (by simpa using h)
  simp [gap?, htake, isNumeralBlank]

theorem not_isDigit_of_start {c : Char} (h : c.isAlpha = true ∨ c = '_') : c.isDigit = false := by
  rcases h with h | rfl
  · rw [isAlpha_iff] at h
    rw [Bool.eq_false_iff, ne_eq, isDigit_iff]
    omega
  · rfl

theorem start_of_plain {cs : List Char} (h : isPlainName cs = true) :
    ∃ c rest, cs = c :: rest ∧ (c.isAlpha = true ∨ c = '_') := by
  cases cs with
  | nil => cases h
  | cons c rest => exact ⟨c, rest, rfl, by simp_all [isPlainName]⟩

theorem token?_word {c : Char} {cs : List Char} (hc : c.isAlpha = true ∨ c = '_')
    (hquote : cs.head? ≠ some '\'') :
    token? (c :: cs) = some (.word (String.ofList (c :: cs.takeWhile isNameChar)),
      (cs.takeWhile isNameChar).length) := by
  have hstart : isNameStart c = true := by
    rcases hc with h | rfl
    · simp [isNameStart, h]
    · rfl
  have hdigit := not_isDigit_of_start hc
  simp only [token?]
  split
  all_goals try (exfalso; revert hc; decide)
  have hdot : c ≠ '.' := by
    rintro rfl
    revert hc
    decide
  rw [if_neg (by simp [hdigit, hdot]), if_neg hdot]
  split
  · exact absurd rfl hquote
  · exact absurd rfl hquote
  · rw [if_pos hstart]

theorem token?_quoted {name rest : List Char} (hname : '"' ∉ name)
    (hrest : rest.head?.all (· ≠ '"') = true) :
    token? ('"' :: (name ++ '"' :: rest)) =
      some (.quoted (String.ofList name) true, name.length + 1) := by
  have hbody : quotedBody '"' (name ++ '"' :: rest) = some (name, name.length + 1) := by
    induction name with
    | nil =>
      cases rest with
      | nil => rfl
      | cons d rest => simp_all [quotedBody]
    | cons c name ih =>
      have hc : c ≠ '"' := fun h => hname (h ▸ List.mem_cons_self)
      have hcons : ∀ d cs, quotedBody '"' (c :: d :: cs) =
          (quotedBody '"' (d :: cs)).map fun read => (c :: read.1, read.2 + 1) :=
        fun d cs => by rw [quotedBody, if_neg hc]
      have htail := ih fun h => hname (List.mem_cons_of_mem c h)
      cases name with
      | nil =>
        rw [List.nil_append] at htail
        simp only [List.cons_append, List.nil_append, hcons, htail]
        rfl
      | cons d name =>
        rw [List.cons_append] at htail
        simp only [List.cons_append, hcons, htail]
        rfl
  simp only [token?, hbody, Option.map_some]

/-- The gap is none, or one blank with no blank after it. -/
def Gap (gap rest : List Char) : Prop :=
  gap = [] ∨ gap = [' '] ∧ rest.head?.all (fun c => !isNumeralBlank c) = true

theorem Gap.piece? {gap rest : List Char} (h : Gap gap rest) (hne : gap ≠ []) :
    piece? (gap ++ rest) = some (gap.length - 1, some (none, gap)) := by
  rcases h with rfl | ⟨rfl, h⟩
  · exact absurd rfl hne
  · simp [Sql.piece?, gap?_blank h]

namespace Lexeme

def name (name : String) (gap : List Char) : Lexeme := ⟨.word name, name.toList, gap⟩

def quoted (name : String) (gap : List Char) : Lexeme :=
  ⟨.quoted name true, '"' :: name.toList ++ ['"'], gap⟩

def mark (c : Char) (gap : List Char) : Lexeme := ⟨.mark c, [c], gap⟩

def parameter (index : Nat) (gap : List Char) : Lexeme := ⟨.parameter index, ['?'], gap⟩

theorem stands_name {text : String} {gap rest : List Char} (h : isPlainName text.toList = true)
    (hnext : (gap ++ rest).head?.all (fun c => !isNameChar c && c ≠ '\'') = true)
    (hgap : Gap gap rest) : (name text gap).Stands rest := by
  obtain ⟨c, cs, hcs, hstart⟩ := start_of_plain h
  rw [hcs] at h
  have htake : (cs ++ (gap ++ rest)).takeWhile isNameChar = cs := by
    rw [List.takeWhile_append_of_pos fun d hd => isNameChar_of_mem h (List.mem_cons_of_mem c hd)]
    cases hnil : gap ++ rest with
    | nil => simp
    | cons d tail =>
      rw [hnil] at hnext
      simp_all
  have hquote : (cs ++ (gap ++ rest)).head? ≠ some '\'' := by
    cases cs with
    | nil =>
      rintro hq
      rw [List.nil_append] at hq
      rw [hq] at hnext
      exact absurd hnext (by decide)
    | cons d cs =>
      rintro hq
      cases hq
      exact absurd (isNameChar_of_mem h (List.mem_cons_of_mem c List.mem_cons_self)) (by decide)
  have hgap? : gap? (c :: (cs ++ (gap ++ rest))) = none := by
    have hblank := not_isNumeralBlank_of_plain h List.mem_cons_self
    refine gap?_eq_none ?_ ?_ hblank ?_ <;> (rintro rfl; revert hstart; decide)
  have htoken := token?_word hstart hquote
  rw [htake, ← hcs, String.ofList_toList] at htoken
  refine ⟨?_, ?_, hgap.piece?⟩
  · simp [name, hcs]
  · simp [name, hcs, Sql.piece?, hgap?, htoken]

theorem stands_quoted {text : String} {gap rest : List Char} (h : '"' ∉ text.toList)
    (hnext : (gap ++ rest).head?.all (· ≠ '"') = true) (hgap : Gap gap rest) :
    (quoted text gap).Stands rest := by
  have htoken := token?_quoted h hnext
  have hgap? : ∀ cs, gap? ('"' :: cs) = none := fun cs =>
    gap?_eq_none (by decide) (by decide) (by decide) (by decide)
  have htake : (text.toList ++ '"' :: (gap ++ rest)).take (text.toList.length + 1) =
      text.toList ++ ['"'] := by simp [List.take_append, List.take_of_length_le]
  rw [String.ofList_toList] at htoken
  refine ⟨by simp [quoted], ?_, hgap.piece?⟩
  simp [quoted, Sql.piece?, hgap?, htoken, htake]

theorem stands_mark {c : Char} {gap rest : List Char} (h : c ∈ ['(', ')', ',', '*'])
    (hgap : Gap gap rest) : (mark c gap).Stands rest := by
  refine ⟨by simp [mark], ?_, hgap.piece?⟩
  simp only [List.mem_cons, List.not_mem_nil, or_false] at h
  rcases h with rfl | rfl | rfl | rfl <;> rfl

theorem stands_dot {rest : List Char} (h : rest.head?.all (fun c => !c.isDigit) = true) :
    (mark '.' []).Stands rest := by
  refine ⟨by simp [mark], ?_, fun hne => absurd rfl hne⟩
  have hdigit : ((rest.head?.map Char.isDigit).getD false) = false := by
    cases rest with
    | nil => rfl
    | cons c rest => simpa using h
  have htoken : token? ('.' :: rest) = some (.mark '.', 0) := by
    simp [token?, hdigit]
  simp [mark, Sql.piece?, gap?, htoken, isNumeralBlank]

theorem stands_parameter {gap rest : List Char} (hgap : Gap gap rest) :
    (parameter 0 gap).Stands rest :=
  ⟨by simp [parameter], rfl, hgap.piece?⟩

end Lexeme

theorem lexemes?_chars {lexemes : List Lexeme} (h : Chain lexemes [])
    (hnull : ∀ lexeme ∈ lexemes, '\x00' ∉ lexeme.chars) :
    lexemes? (lexemes.flatMap Lexeme.chars) = some (numbered 0 lexemes) := by
  have hkeep : (lexemes.flatMap Lexeme.chars).takeWhile (fun c => decide (c ≠ '\x00')) =
      lexemes.flatMap Lexeme.chars := by
    rw [← List.append_nil (lexemes.flatMap Lexeme.chars), List.takeWhile_append_of_pos]
    · rfl
    · intro c hc
      obtain ⟨lexeme, hl, hc⟩ := List.mem_flatMap.1 hc
      exact decide_eq_true fun he => hnull lexeme hl (he ▸ hc)
  have htokens := h.tokensFrom
  rw [List.append_nil] at htokens
  have hjoin : joinGaps (lexemes.flatMap Lexeme.pieces) = lexemes := by
    simpa [joinGaps] using joinGaps_pieces lexemes (show takeGaps [] = ([], []) from rfl)
  rw [lexemes?, hkeep, htokens]
  simp [Text.tokensFrom, hjoin]

/-! Items with commas between them. -/

section Listed

variable {α : Type} {item : α → List Char → List Lexeme} {text : α → List Char}

/-- The lexemes of the items and the commas. Each item is given the gap after it. -/
def listed (item : α → List Char → List Lexeme) (last : List Char) : List α → List Lexeme
  | [] => []
  | [a] => item a last
  | a :: b :: as => item a [] ++ Lexeme.mark ',' [' '] :: listed item last (b :: as)

theorem chars_listed (htext : ∀ a gap, (item a gap).flatMap Lexeme.chars = text a ++ gap)
    (last : List Char) {as : List α} (hne : as ≠ []) :
    (listed item last as).flatMap Lexeme.chars =
      [',', ' '].intercalate (as.map text) ++ last := by
  induction as with
  | nil => exact absurd rfl hne
  | cons a as ih =>
    cases as with
    | nil => simp [listed, htext]
    | cons b as =>
      have hrest := ih (List.cons_ne_nil b as)
      simp only [listed, List.flatMap_append, htext, List.flatMap_cons, hrest, List.map_cons,
        List.intercalate_cons_cons]
      simp [Lexeme.mark, Lexeme.chars]

theorem chain_listed {last rest : List Char} {as : List α}
    (htext : ∀ a gap, (item a gap).flatMap Lexeme.chars = text a ++ gap)
    (hhead : ∀ a ∈ as, ∃ c cs, text a = c :: cs ∧ isNumeralBlank c = false)
    (hitem : ∀ a ∈ as, ∀ tail, Chain (item a []) (',' :: tail))
    (hlast : ∀ a ∈ as, Chain (item a last) rest) : Chain (listed item last as) rest := by
  induction as with
  | nil => trivial
  | cons a as ih =>
    cases as with
    | nil => exact hlast a List.mem_cons_self
    | cons b as =>
      have hchain := ih (fun a ha => hhead a (List.mem_cons_of_mem _ ha))
        (fun a ha => hitem a (List.mem_cons_of_mem _ ha))
        fun a ha => hlast a (List.mem_cons_of_mem _ ha)
      refine Chain.append (hitem a List.mem_cons_self _) ⟨?_, hchain⟩
      refine Lexeme.stands_mark (by simp) (.inr ⟨rfl, ?_⟩)
      obtain ⟨c, cs, hcs, hc⟩ := hhead b (List.mem_cons_of_mem _ List.mem_cons_self)
      rw [chars_listed htext last (List.cons_ne_nil b as)]
      cases as with
      | nil => simpa [hcs] using hc
      | cons d as => simpa [List.intercalate_cons_cons, hcs] using hc

theorem forall_mem_listed {p : Lexeme → Prop} {last : List Char} {as : List α}
    (hcomma : p (.mark ',' [' '])) (hitem : ∀ a ∈ as, ∀ lexeme ∈ item a [], p lexeme)
    (hlast : ∀ a ∈ as, ∀ lexeme ∈ item a last, p lexeme) :
    ∀ lexeme ∈ listed item last as, p lexeme := by
  induction as with
  | nil => exact fun lexeme hl => absurd hl List.not_mem_nil
  | cons a as ih =>
    intro lexeme hl
    cases as with
    | nil => exact hlast a List.mem_cons_self lexeme hl
    | cons b as =>
      rcases List.mem_append.1 hl with hl | hl
      · exact hitem a List.mem_cons_self lexeme hl
      · rcases List.mem_cons.1 hl with rfl | hl
        · exact hcomma
        · exact ih (fun d hd => hitem d (List.mem_cons_of_mem _ hd))
            (fun d hd => hlast d (List.mem_cons_of_mem _ hd)) lexeme hl

end Listed

end FluentQuery.Sql
