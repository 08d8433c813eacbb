import FluentQuery.Proofs.Qualification
import Mathlib.Data.Finset.Card
import Mathlib.Data.List.Forall2
import Mathlib.Data.List.Induction

/-!
Join keys as a map in the order of insertion. Main statement: whatever pairs are inserted, in a list
or one by one, the left keys are distinct and stand in the order of their first insertions, each
with the right key of its last insertion, and the join has one condition for each of them.
-/
namespace FluentQuery

theorem Assoc.pairwise_keys_ofPairs {α β : Type} [DecidableEq α] (pairs : List (α × β)) :
    (keys (ofPairs pairs)).Pairwise fun first second =>
      (keys pairs).idxOf first < (keys pairs).idxOf second := by
  induction pairs using List.reverseRecOn with
  | nil => exact List.Pairwise.nil
  | append_singleton pairs pair ih =>
    have hkeys : keys (pairs ++ [pair]) = keys pairs ++ [pair.1] := List.map_append
    have hplaces : ∀ key ∈ keys (ofPairs pairs), key ∈ keys pairs :=
      fun key hkey => mem_keys_ofPairs.1 hkey
    rw [ofPairs_concat, keys_put, hkeys]
    split
    · exact pairwise_places_concat hplaces ih pair.1
    · next hnew => exact pairwise_places_new hplaces ih (mt mem_keys_ofPairs.2 hnew)

namespace JoinKeys

def lefts (keys : JoinKeys) : List String := Assoc.keys keys.pairs

/-- The keys that come of pairs inserted in this order: none, those of a list, or those of earlier
pairs and one more. -/
inductive Built : List (String × String) → JoinKeys → Prop
  | empty : Built [] .empty
  | collected (pairs : List (String × String)) : Built pairs (.ofList pairs)
  | insert {inserts : List (String × String)} {keys : JoinKeys} (h : Built inserts keys)
      (left right : String) : Built (inserts ++ [(left, right)]) (keys.insert left right)

/-- The right key of a left key in its last insertion. -/
def LastInserted (inserts : List (String × String)) (left right : String) : Prop :=
  ∃ before after, inserts = before ++ (left, right) :: after ∧ left ∉ Assoc.keys after

variable {inserts : List (String × String)} {keys : JoinKeys}

theorem Built.eq_ofList (h : Built inserts keys) : keys = .ofList inserts := by
  induction h with
  | empty => rfl
  | collected pairs => rfl
  | insert h left right ih =>
    rw [ih, ofList_eq_foldl, ofList_eq_foldl, List.foldl_append]
    rfl

theorem mem_pairs_ofList_iff {left right : String} :
    (left, right) ∈ (ofList inserts).pairs ↔ LastInserted inserts left right := by
  rw [ofList, ← Assoc.get?_eq_some_iff (Assoc.nodup_keys_ofPairs inserts),
    Assoc.get?_ofPairs_eq_some_iff, LastInserted]

theorem nodup_lefts_ofList (inserts : List (String × String)) : (ofList inserts).lefts.Nodup :=
  Assoc.nodup_keys_ofPairs inserts

theorem mem_lefts_ofList {left : String} :
    left ∈ (ofList inserts).lefts ↔ left ∈ Assoc.keys inserts := Assoc.mem_keys_ofPairs

theorem size_ofList (inserts : List (String × String)) :
    (ofList inserts).size = (Assoc.keys inserts).toFinset.card := by
  have hsame : (Assoc.keys inserts).toFinset = (ofList inserts).lefts.toFinset := by
    ext left
    rw [List.mem_toFinset, List.mem_toFinset, mem_lefts_ofList]
  rw [hsame, List.toFinset_card_of_nodup (nodup_lefts_ofList inserts), lefts, Assoc.keys,
    List.length_map, size]

theorem forall₂_equalities {clause : JoinClause} (h : clause.conditions = ofList inserts)
    (planAlias : String) :
    List.Forall₂ (fun left equality => ∃ right, LastInserted inserts left right ∧
      equality = qualifiedKey left planAlias ++ "=" ++ qualifiedKey right clause.aliasName)
      clause.conditions.lefts (clause.equalities planAlias) := by
  rw [JoinClause.equalities, lefts, Assoc.keys, List.forall₂_map_left_iff,
    List.forall₂_map_right_iff, List.forall₂_same]
  rintro ⟨left, right⟩ hpair
  rw [h] at hpair
  exact ⟨right, mem_pairs_ofList_iff.1 hpair, rfl⟩

/-- After any insertions the left keys are those that were inserted, each once and in the order of
their first insertions, and each has the right key of its last. A join on them has one equality for
each left key, in that order. -/
theorem built_insertion_order (h : Built inserts keys) :
    keys.lefts.Nodup ∧
    (∀ left, left ∈ keys.lefts ↔ left ∈ Assoc.keys inserts) ∧
    (keys.lefts.Pairwise fun first second =>
      (Assoc.keys inserts).idxOf first < (Assoc.keys inserts).idxOf second) ∧
    (∀ left right, (left, right) ∈ keys.pairs ↔ LastInserted inserts left right) ∧
    keys.size = (Assoc.keys inserts).toFinset.card ∧
    ∀ (clause : JoinClause) (planAlias : String), clause.conditions = keys →
      clause.sql planAlias = "JOIN " ++ aliased clause.target.sql clause.aliasName ++ " ON " ++
        " AND ".intercalate (clause.equalities planAlias) ∧
      List.Forall₂ (fun left equality => ∃ right, LastInserted inserts left right ∧
        equality = qualifiedKey left planAlias ++ "=" ++ qualifiedKey right clause.aliasName)
        keys.lefts (clause.equalities planAlias) := by
  obtain rfl := h.eq_ofList
  refine ⟨nodup_lefts_ofList inserts, fun left => mem_lefts_ofList,
    Assoc.pairwise_keys_ofPairs inserts, fun left right => mem_pairs_ofList_iff,
    size_ofList inserts, fun clause planAlias hclause =>
      ⟨clause.sql_eq_equalities planAlias, ?_⟩⟩
  have hequalities := forall₂_equalities hclause planAlias
  rwa [hclause] at hequalities

/-- Two pairs in a list and two more, one of which has the first left key again. -/
theorem built_insertion_order_owner :
    let inserts := [("id", "user_id"), ("org", "org_id"), ("id", "owner_id"), ("town", "town")]
    let keys : JoinKeys := ⟨[("id", "owner_id"), ("org", "org_id"), ("town", "town")]⟩
    let clause : JoinClause := ⟨.raw "orders", "o", keys⟩
    Built inserts keys ∧ keys.size = 3 ∧ LastInserted inserts "id" "owner_id" ∧
      clause.sql "u" =
        "JOIN orders AS o ON u.id=o.owner_id AND u.org=o.org_id AND u.town=o.town" ∧
      List.Forall₂ (fun left equality => ∃ right, LastInserted inserts left right ∧
        equality = qualifiedKey left "u" ++ "=" ++ qualifiedKey right "o")
        ["id", "org", "town"] (clause.equalities "u") := by
  intro inserts keys clause
  have h : Built inserts keys :=
    ((Built.collected [("id", "user_id"), ("org", "org_id")]).insert "id" "owner_id").insert
      "town" "town"
  obtain ⟨-, -, -, hlast, hsize, hjoin⟩ := built_insertion_order h
  obtain ⟨-, hequalities⟩ := hjoin clause "u" rfl
  have howner : ("id", "owner_id") ∈ keys.pairs := List.mem_cons_self
  have htext : clause.sql "u" =
      "JOIN orders AS o ON u.id=o.owner_id AND u.org=o.org_id AND u.town=o.town" := by
    decide +kernel
  exact ⟨h, hsize, (hlast _ _).1 howner, htext, hequalities⟩

end JoinKeys

end FluentQuery
