import Countersign.Keys.Ring
import Countersign.Proofs.Keys.Names
import Mathlib.Data.Finset.Card
import Mathlib.Data.Finset.Dedup

/-!
# What a key ring is made of

A ring that was made of a list of entries shows of them which names there are, each in the place
where it came first (`Countersign.KeyRing.names_ofList`), and of each name the secret that came
last (`Countersign.KeyRing.find?_ofList_eq`). All else that a ring tells – how many keys there are,
which is the least, how it is described – it tells of its names alone.
-/

namespace Countersign.KeyRing

/-! ### Names -/

theorem isSome_find?_iff {r : KeyRing} {n : KeyName} : (r.find? n).isSome ↔ n ∈ r.names := by
  rw [find?, List.lookup_isSome_iff, names, List.mem_map]
  exact ⟨fun ⟨e, he, hn⟩ => ⟨e, he, (beq_iff_eq.mp hn).symm⟩,
    fun ⟨e, he, hn⟩ => ⟨e, he, beq_iff_eq.mpr hn.symm⟩⟩

/-- A name that is new comes last. -/
theorem names_insert (r : KeyRing) (n : KeyName) (secret : Bytes) :
    (r.insert n secret).names = if n ∈ r.names then r.names else r.names ++ [n] := by
  have hput (es : List (KeyName × Bytes)) : (put n secret es).map Prod.fst =
      if n ∈ es.map Prod.fst then es.map Prod.fst else es.map Prod.fst ++ [n] := by
    induction es with
    | nil => simp [put]
    | cons e es ih =>
      obtain ⟨m, s⟩ := e
      by_cases hm : m = n
      · simp [put, hm]
      · simp only [put, if_neg hm, List.map_cons, ih, List.mem_cons, Ne.symm hm, false_or]
        split <;> rfl
  exact hput r.entries

/-- **The names** of a ring are those of the entries, each where it came first. -/
theorem names_ofList (es : List (KeyName × Bytes)) :
    (ofList es).names = (es.map Prod.fst).eraseDups := by
  -- By the end of the list, because that is where a ring grows.
  induction es using List.reverseRecOn with
  | nil => rfl
  | append_singleton es e ih =>
    obtain ⟨n, s⟩ := e
    have hlast : ofList (es ++ [(n, s)]) = (ofList es).insert n s := by
      rw [ofList, List.foldl_append]
      rfl
    rw [hlast, names_insert, ih, List.map_append, List.eraseDups_append]
    by_cases hn : n ∈ es.map Prod.fst
    · rw [if_pos (List.mem_eraseDups.mpr hn)]
      simp [List.removeAll, hn]
    · rw [if_neg (mt List.mem_eraseDups.mp hn)]
      simp [List.removeAll, hn, List.eraseDups_cons]

theorem mem_names_ofList {es : List (KeyName × Bytes)} {n : KeyName} :
    n ∈ (ofList es).names ↔ n ∈ es.map Prod.fst := by
  rw [names_ofList, List.mem_eraseDups]

theorem size_eq (r : KeyRing) : r.size = r.names.length := (List.length_map Prod.fst).symm

/-- There are as many keys as the entries have names. -/
theorem size_ofList (es : List (KeyName × Bytes)) :
    (ofList es).size = (es.map Prod.fst).toFinset.card := by
  have hsame : (ofList es).names.toFinset = (es.map Prod.fst).toFinset := by
    ext n
    rw [List.mem_toFinset, List.mem_toFinset, mem_names_ofList]
  rw [← hsame, List.toFinset_card_of_nodup (l := (ofList es).names) (ofList es).nodup, size_eq]

/-! ### Secrets -/

/-- **The secret** of a name is that of its last entry. -/
theorem find?_ofList_eq (es : List (KeyName × Bytes)) (n : KeyName) :
    (ofList es).find? n = ((es.filter fun e => e.1 = n).getLast?).map Prod.snd := by
  have hlookup (l : List (KeyName × Bytes)) :
      l.lookup n = (l.find? fun e => e.1 = n).map Prod.snd := by
    induction l with
    | nil => rfl
    | cons e l ih =>
      obtain ⟨m, s⟩ := e
      by_cases hm : m = n
      · simp [hm]
      · simp [hm, ih, List.lookup_cons, beq_false_of_ne (Ne.symm hm)]
  rw [find?_ofList, hlookup, List.getLast?_filter]

/-! ### The least name -/

/-- Going through names and keeping the lesser of two each time, one ends with the least. -/
theorem foldl_least {f : Option KeyName → KeyName → Option KeyName}
    (hf : ∀ m n, f (some m) n = some (if m.le n then m else n)) (m : KeyName)
    (ns : List KeyName) :
    ∃ n, ns.foldl f (some m) = some n ∧ n ∈ m :: ns ∧ ∀ k ∈ m :: ns, n.le k = true := by
  induction ns generalizing m with
  | nil => exact ⟨m, rfl, List.mem_cons_self, by simpa using m.le_refl⟩
  | cons k ns ih =>
    obtain ⟨l, hl, hlm, hlk, hmem⟩ : ∃ l, (if m.le k then m else k) = l ∧ l.le m = true ∧
        l.le k = true ∧ l ∈ [m, k] := by
      by_cases hle : m.le k = true
      · exact ⟨m, if_pos hle, m.le_refl, hle, by simp⟩
      · exact ⟨k, if_neg hle, KeyName.le_of_not_le hle, k.le_refl, by simp⟩
    obtain ⟨n, hn, hnmem, hleast⟩ := ih l
    have hnl : n.le l = true := hleast l List.mem_cons_self
    refine ⟨n, ?_, ?_, ?_⟩
    · rw [List.foldl_cons, hf, hl]
      exact hn
    · rcases List.mem_cons.mp hnmem with rfl | hrest
      · exact List.mem_append_left ns hmem
      · simp [hrest]
    · rw [List.forall_mem_cons, List.forall_mem_cons]
      exact ⟨KeyName.le_trans hnl hlm, KeyName.le_trans hnl hlk,
        fun j hj => hleast j (List.mem_cons_of_mem l hj)⟩

/-- **The least name** is there if there is any name at all. -/
theorem least?_cases (r : KeyRing) :
    (r.names = [] ∧ r.least? = none) ∨
      ∃ n, r.least? = some n ∧ n ∈ r.names ∧ ∀ m ∈ r.names, n.le m = true := by
  rw [least?]
  cases r.names with
  | nil => exact Or.inl ⟨rfl, rfl⟩
  | cons m ns => exact Or.inr (foldl_least (fun _ _ => rfl) m ns)

/-! ### What the names decide -/

section Names

variable {r r' : KeyRing} (h : r.names = r'.names)

include h

theorem size_eq_of_names_eq : r.size = r'.size := by
  rw [size_eq, size_eq, h]

theorem least?_eq_of_names_eq : r.least? = r'.least? := by
  rw [least?, least?, h]

theorem isSome_find?_eq_of_names_eq (n : KeyName) : (r.find? n).isSome = (r'.find? n).isSome := by
  rw [Bool.eq_iff_iff, isSome_find?_iff, isSome_find?_iff, h]

theorem describeNames_eq_of_names_eq : r.describeNames = r'.describeNames := by
  rw [describeNames, describeNames, sortedNames, sortedNames, h]

end Names

end Countersign.KeyRing
