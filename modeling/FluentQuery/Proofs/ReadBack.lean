import FluentQuery.Json.Parser
import FluentQuery.Proofs.JsonTokens

/-!
Compact texts are read back. Main statement: the compact text of a value is read as that value
wherever its numbers are read back from their own texts, no object has a key twice, and the arrays
and objects stay within the depth of the reader.
-/
namespace FluentQuery.Json

def Readable (j : Json) : Prop := ofText? j.text = some j

/-- The tokens lead from one stage to another. -/
def Takes (limit : Nat) (tokens : List Token) (start finish : Stage) : Prop :=
  tokens.foldlM (advance limit) start = some finish

variable {limit : Nat}

theorem takes_token {token : Token} {start finish : Stage}
    (h : advance limit start token = some finish) : Takes limit [token] start finish := by
  rw [Takes, List.foldlM_cons, h]
  rfl

theorem Takes.append {first second : List Token} {start middle finish : Stage}
    (h : Takes limit first start middle) (h' : Takes limit second middle finish) :
    Takes limit (first ++ second) start finish := by
  rw [Takes] at h h' ⊢
  rw [List.foldlM_append, h]
  exact h'

/-- A value may come here, below which these frames are open. -/
def Begins (limit : Nat) (stage : Stage) (stack : List Frame) : Prop :=
  ∀ token, token ≠ .closeArray → advance limit stage token = beginValue limit stack token

theorem begins_value (stack : List Frame) : Begins limit (.value stack) stack := fun _ _ => rfl

theorem begins_firstItem (stack : List Frame) :
    Begins limit (.firstItem stack) (.items [] :: stack) := by
  intro token hclose
  cases token with
  | closeArray => exact absurd rfl hclose
  | _ => rfl

def BeginsKey (limit : Nat) (stage : Stage) (done : List (String × Json)) (stack : List Frame) :
    Prop :=
  ∀ key, advance limit stage (.text key) = some (.colon done key stack)

theorem takes_entry {stage : Stage} {done : List (String × Json)} {stack : List Frame}
    (h : BeginsKey limit stage done stack) (key : String) {value : Json}
    (hvalue : Takes limit value.tokens (.value (.entries done key :: stack))
      (.complete value (.entries done key :: stack))) :
    Takes limit (.text key :: .colon :: value.tokens) stage
      (.complete value (.entries done key :: stack)) := by
  have hcolon : Takes limit [.colon] (.colon done key stack)
      (.value (.entries done key :: stack)) := takes_token rfl
  exact (takes_token (h key)).append (hcolon.append hvalue)

mutual

theorem takes_tokens : ∀ (j : Json) {room : Nat} {stack : List Frame} {stage : Stage},
    j.fits room = true → stack.length + room ≤ limit → Begins limit stage stack →
      Takes limit j.tokens stage (.complete j stack)
  | .null, _, _, _, _, _, h => takes_token (h _ nofun)
  | .bool _, _, _, _, _, _, h => takes_token (h _ nofun)
  | .int _, _, _, _, _, _, h => takes_token (h _ nofun)
  | .float _, _, _, _, _, _, h => takes_token (h _ nofun)
  | .str _, _, _, _, _, _, h => takes_token (h _ nofun)
  | .arr items, 0, _, _, hfits, _, _ => nomatch hfits
  | .obj entries, 0, _, _, hfits, _, _ => nomatch hfits
  | .arr [], room + 1, stack, stage, hfits, hroom, h => by
    have hopen : Takes limit [.openArray] stage (.firstItem stack) :=
      takes_token ((h .openArray nofun).trans (if_pos (by omega)))
    exact hopen.append (takes_token rfl)
  | .arr (item :: items), room + 1, stack, stage, hfits, hroom, h => by
    have hopen : Takes limit [.openArray] stage (.firstItem stack) :=
      takes_token ((h .openArray nofun).trans (if_pos (by omega)))
    rw [fits] at hfits
    have hitems := takes_itemTokens (item :: items) (List.cons_ne_nil _ _) hfits
      (by omega) (begins_firstItem stack)
    exact hopen.append hitems
  | .obj [], room + 1, stack, stage, hfits, hroom, h => by
    have hopen : Takes limit [.openObject] stage (.firstKey stack) :=
      takes_token ((h .openObject nofun).trans (if_pos (by omega)))
    exact hopen.append (takes_token rfl)
  | .obj (entry :: entries), room + 1, stack, stage, hfits, hroom, h => by
    have hopen : Takes limit [.openObject] stage (.firstKey stack) :=
      takes_token ((h .openObject nofun).trans (if_pos (by omega)))
    rw [fits, Bool.and_eq_true, decide_eq_true_eq] at hfits
    have hentries := takes_entryTokens (entry :: entries) (List.cons_ne_nil _ _) hfits.2
      (by omega) (fun _ => rfl : BeginsKey limit (.firstKey stack) [] stack)
    have hkeys := Assoc.ofPairs_eq_self hfits.1
    rw [Assoc.ofPairs] at hkeys
    rw [hkeys] at hentries
    exact hopen.append hentries

theorem takes_itemTokens : ∀ (items : List Json) {room : Nat} {done : List Json}
    {stack : List Frame} {stage : Stage}, items ≠ [] → itemsFit items room = true →
      stack.length + 1 + room ≤ limit → Begins limit stage (.items done :: stack) →
        Takes limit (itemTokens items ++ [.closeArray]) stage
          (.complete (.arr (done.reverse ++ items)) stack)
  | [], _, _, _, _, hne, _, _, _ => absurd rfl hne
  | [item], room, done, stack, stage, _, hfits, hroom, h => by
    rw [itemsFit, Bool.and_eq_true] at hfits
    have hitem := takes_tokens item hfits.1 (by simpa using hroom) h
    have hclose : Takes limit [.closeArray] (.complete item (.items done :: stack))
        (.complete (.arr (item :: done).reverse) stack) := takes_token rfl
    rw [List.reverse_cons] at hclose
    exact hitem.append hclose
  | item :: other :: items, room, done, stack, stage, _, hfits, hroom, h => by
    rw [itemsFit, Bool.and_eq_true] at hfits
    have hitem := takes_tokens item hfits.1 (by simpa using hroom) h
    have hcomma : Takes limit [.comma] (.complete item (.items done :: stack))
        (.value (.items (item :: done) :: stack)) := takes_token rfl
    have hitems := takes_itemTokens (other :: items) (List.cons_ne_nil _ _) hfits.2 hroom
      (begins_value (.items (item :: done) :: stack))
    rw [List.reverse_cons, List.append_assoc, List.singleton_append] at hitems
    rw [itemTokens, List.append_assoc]
    · exact hitem.append (hcomma.append hitems)
    · simp

theorem takes_entryTokens : ∀ (entries : List (String × Json)) {room : Nat}
    {done : List (String × Json)} {stack : List Frame} {stage : Stage}, entries ≠ [] →
      entriesFit entries room = true → stack.length + 1 + room ≤ limit →
        BeginsKey limit stage done stack →
          Takes limit (entryTokens entries ++ [.closeObject]) stage (.complete
            (.obj (entries.foldl (fun entries entry => Assoc.put entry.1 entry.2 entries) done))
            stack)
  | [], _, _, _, _, hne, _, _, _ => absurd rfl hne
  | [(key, value)], room, done, stack, stage, _, hfits, hroom, h => by
    rw [entriesFit, Bool.and_eq_true] at hfits
    have hvalue := takes_tokens value hfits.1 (by simpa using hroom)
      (begins_value (.entries done key :: stack))
    exact (takes_entry h key hvalue).append (takes_token rfl)
  | (key, value) :: other :: entries, room, done, stack, stage, _, hfits, hroom, h => by
    rw [entriesFit, Bool.and_eq_true] at hfits
    have hvalue := takes_tokens value hfits.1 (by simpa using hroom)
      (begins_value (.entries done key :: stack))
    have hcomma : Takes limit [.comma] (.complete value (.entries done key :: stack))
        (.key (Assoc.put key value done) stack) := takes_token rfl
    have hentries := takes_entryTokens (other :: entries) (List.cons_ne_nil _ _) hfits.2 hroom
      (fun _ => rfl : BeginsKey limit (.key (Assoc.put key value done) stack) _ stack)
    rw [entryTokens, List.append_assoc]
    · exact (takes_entry h key hvalue).append (hcomma.append hentries)
    · simp

end

/-- A value that fits the depth of the reader is read back from its compact text. -/
theorem readable_of_fits {j : Json} (h : j.fits depthLimit = true) : j.Readable := by
  have hrun : Takes depthLimit j.tokens (.value []) (.complete j []) :=
    takes_tokens j h (Nat.le_of_eq (Nat.zero_add _)) (begins_value [])
  have htokens := tokens?_chars h
  rw [Takes] at hrun
  simp only [Readable, ofText?, toList_text, ofChars?, htokens, hrun, Option.bind_eq_bind,
    Option.bind_some]
  rfl

end FluentQuery.Json
