import QueryFence.Cache.File
import QueryFence.Proofs.Files.Home

/-!
The names of a cache's files: the index and one file for every key, all of them plain names of few
ASCII characters.
-/

namespace QueryFence

namespace Text

/-- ASCII characters other than the one that ends paths. -/
def IsAscii (t : Text) : Prop := ∀ c ∈ t, 0 < c.toNat ∧ c.toNat < 0x80

instance (t : Text) : Decidable t.IsAscii :=
  List.decidableBAll (fun c : Char => 0 < c.toNat ∧ c.toNat < 0x80) t

theorem IsAscii.append {s t : Text} (hs : s.IsAscii) (ht : t.IsAscii) : IsAscii (s ++ t) :=
  fun c hc => (List.mem_append.1 hc).elim (hs c) (ht c)

theorem utf8_append (s t : Text) : utf8 (s ++ t) = utf8 s ++ utf8 t := List.flatMap_append

theorem IsAscii.length_utf8 {t : Text} (h : t.IsAscii) : (utf8 t).length = t.length := by
  induction t with
  | nil => rfl
  | cons c t ih =>
    have hsize : c.utf8Size = 1 := by
      have hc := (h c List.mem_cons_self).2
      rw [Char.utf8Size_eq_one_iff, UInt32.le_iff_toNat_le]
      exact Nat.le_of_lt_succ hc
    have ht := ih fun d hd => h d (List.mem_cons_of_mem c hd)
    rw [utf8, List.flatMap_cons, List.length_append, String.length_utf8EncodeChar, hsize, ← utf8, ht,
      List.length_cons, Nat.add_comm]

theorem IsAscii.not_contains_null {t : Text} (h : t.IsAscii) : t.contains '\x00' = false := by
  rw [List.contains_eq_mem, decide_eq_false_iff_not]
  exact fun hm => absurd (h _ hm).1 (by decide)

end Text

namespace Md5

theorem length_littleEndian (count n : Nat) : (littleEndian count n).length = count := by
  induction count generalizing n with
  | zero => rfl
  | succ count ih => rw [littleEndian, List.length_cons, ih]

theorem length_digest (bytes : List UInt8) : (digest bytes).length = 16 := by
  simp [digest, length_littleEndian]

theorem hex_byte : ∀ n < 256, (Text.hex 2 n).length = 2 ∧ (Text.hex 2 n).IsAscii := by
  decide +kernel

theorem length_hexDigest (t : Text) : (hexDigest t).length = 32 := by
  have hbyte : ∀ b : UInt8, (Text.hex 2 b.toNat).length = 2 :=
    fun b => (hex_byte b.toNat b.toNat_lt).1
  simp [hexDigest, List.length_flatMap, hbyte, length_digest]

theorem isAscii_hexDigest (t : Text) : (hexDigest t).IsAscii := by
  intro c hc
  obtain ⟨b, -, hc⟩ := List.mem_flatMap.1 hc
  exact (hex_byte b.toNat b.toNat_lt).2 c hc

end Md5

namespace FileCache

/-- The names of the files that the cache makes. -/
def IsOwnName (name : Text) : Prop := name = indexName ∨ ∃ key, name = fileName (fileKey key)

theorem isOwnName_index : IsOwnName indexName := .inl rfl

theorem isOwnName_file (key : Text) : IsOwnName (fileName (fileKey key)) := .inr ⟨key, rfl⟩

theorem length_fileName (key : Text) : (fileName (fileKey key)).length = 37 := by
  rw [fileName, List.length_append, fileKey, Md5.length_hexDigest]
  rfl

theorem fileName_ne_indexName (key : Text) : fileName (fileKey key) ≠ indexName := by
  intro h
  have hlength := length_fileName key
  rw [h] at hlength
  exact absurd hlength (by decide)

variable {name : Text}

theorem IsOwnName.isAscii (h : IsOwnName name) : name.IsAscii := by
  rcases h with rfl | ⟨key, rfl⟩
  · decide
  · exact (Md5.isAscii_hexDigest key).append (by decide)

theorem IsOwnName.length_le (h : IsOwnName name) : name.length ≤ 37 := by
  rcases h with rfl | ⟨key, rfl⟩
  · decide
  · exact Nat.le_of_eq (length_fileName key)

theorem IsOwnName.two_lt_length (h : IsOwnName name) : 2 < name.length := by
  rcases h with rfl | ⟨key, rfl⟩
  · decide
  · rw [length_fileName]
    decide

theorem IsOwnName.isCacheFile (h : IsOwnName name) : isCacheFile name = true := by
  rcases h with rfl | ⟨key, rfl⟩
  · decide
  · rw [FileCache.isCacheFile, Bool.and_eq_true, decide_eq_true_eq, length_fileName]
    exact ⟨List.isSuffixOf_iff_suffix.2 (List.suffix_append _ _), by decide⟩

theorem IsOwnName.isPlainName (h : IsOwnName name) : FileTree.IsPlainName name := by
  have hlong := h.two_lt_length
  have hne : ∀ other : Text, other.length ≤ 2 → name ≠ other := by
    rintro other ho rfl
    omega
  refine ⟨?_, hne _ (by decide), hne _ (by decide), ?_⟩
  · simp only [FileTree.staysHere, hne [] (by decide), hne ("." : Text) (by decide), decide_false,
      Bool.or_self]
  · rw [h.isAscii.length_utf8]
    exact Nat.le_trans h.length_le (by decide)

end FileCache

namespace FileTree

theorem joinWith_concat (separator last : Text) {parts : List Text} (h : parts ≠ []) :
    Text.joinWith separator (parts ++ [last]) =
      Text.joinWith separator parts ++ (separator ++ last) := by
  induction parts with
  | nil => exact absurd rfl h
  | cons part parts ih =>
    cases parts with
    | nil => simp [Text.joinWith]
    | cons next parts =>
      have hrest := ih (List.cons_ne_nil next parts)
      simp only [Text.joinWith, List.cons_append, List.intercalate_cons_cons] at hrest ⊢
      rw [hrest]
      simp only [List.append_assoc]

/-- A further step makes a written path longer by a slash and the name. -/
theorem length_written_concat (steps : List Text) {name : Text} (hroot : name ≠ root) :
    (Text.utf8 (written (steps ++ [name]))).length ≤
      (Text.utf8 (written steps)).length + 1 + (Text.utf8 name).length := by
  have hslash : (Text.utf8 ("/" : Text)).length = 1 := by decide
  have hjoin : ∀ parts : List Text, (Text.utf8 (Text.joinWith "/" (parts ++ [name]))).length ≤
      (Text.utf8 (Text.joinWith "/" parts)).length + 1 + (Text.utf8 name).length := by
    intro parts
    cases parts with
    | nil =>
      have hone : Text.joinWith "/" ([] ++ [name]) = name := List.intercalate_singleton
      rw [hone]
      omega
    | cons part parts =>
      rw [joinWith_concat _ _ (List.cons_ne_nil part parts), Text.utf8_append, Text.utf8_append,
        List.length_append, List.length_append, hslash]
      omega
  cases steps with
  | nil =>
    have h := hjoin []
    have hnil : (Text.utf8 (Text.joinWith "/" [])).length = 0 := rfl
    rw [List.nil_append] at h ⊢
    rw [written, written, if_neg hroot]
    omega
  | cons first rest =>
    rw [List.cons_append, written, written]
    split
    · have hcons : ∀ t : Text, (Text.utf8 ('/' :: t)).length = 1 + (Text.utf8 t).length := by
        intro t
        rw [← hslash, ← List.length_append, ← Text.utf8_append]
        rfl
      rw [hcons, hcons]
      have h := hjoin rest
      omega
    · exact hjoin (first :: rest)

theorem refusal?_concat {steps : List Text} {name : Text} (hsteps : refusal? steps = none)
    (hascii : name.IsAscii) (hroot : name ≠ root)
    (hroom : (Text.utf8 (written steps)).length + 1 + name.length ≤ pathLimit) :
    refusal? (steps ++ [name]) = none := by
  have hlength := length_written_concat steps hroot
  rw [hascii.length_utf8] at hlength
  have hnull : steps.any (·.contains '\x00') = false := by
    rw [refusal?] at hsteps
    split at hsteps
    · cases hsteps
    · exact Bool.eq_false_iff.2 ‹_›
  have hlong : ¬ pathLimit < (Text.utf8 (written (steps ++ [name]))).length := by omega
  have hany : (steps ++ [name]).any (·.contains '\x00') = false := by
    rw [List.any_append, hnull]
    simp only [List.any_cons, List.any_nil, hascii.not_contains_null, Bool.or_self]
  rw [refusal?, hany, if_neg (by decide), if_neg hlong]

/-- Written paths to names in one folder differ in the names only. -/
theorem written_concat (steps : List Text) :
    ∃ lead, ∀ name, name ≠ root → written (steps ++ [name]) = lead ++ name := by
  have hjoin : ∀ parts : List Text, ∃ lead, ∀ name : Text,
      Text.joinWith "/" (parts ++ [name]) = lead ++ name := by
    intro parts
    cases parts with
    | nil => exact ⟨[], fun name => List.intercalate_singleton⟩
    | cons part parts =>
      refine ⟨Text.joinWith "/" (part :: parts) ++ "/", fun name => ?_⟩
      rw [joinWith_concat _ _ (List.cons_ne_nil part parts), List.append_assoc]
  cases steps with
  | nil => exact ⟨[], fun name hroot => (if_neg hroot).trans List.intercalate_singleton⟩
  | cons first rest =>
    by_cases hroot : first = root
    · obtain ⟨lead, hlead⟩ := hjoin rest
      refine ⟨'/' :: lead, fun name _ => ?_⟩
      rw [List.cons_append, written, if_pos hroot, hlead, List.cons_append]
    · obtain ⟨lead, hlead⟩ := hjoin (first :: rest)
      refine ⟨lead, fun name _ => ?_⟩
      rw [List.cons_append, written, if_neg hroot, ← hlead name, List.cons_append]

/-- Where a name is looked up, so is any shorter one. -/
theorem refusal?_of_longer {steps : List Text} {name longer : Text}
    (h : refusal? (steps ++ [longer]) = none) (hascii : name.IsAscii) (hroot : name ≠ root)
    (hroot' : longer ≠ root) (hlength : name.length ≤ (Text.utf8 longer).length) :
    refusal? (steps ++ [name]) = none := by
  obtain ⟨lead, hlead⟩ := written_concat steps
  rw [refusal?] at h
  split at h
  · cases h
  · next hnull =>
    split at h
    · cases h
    · next hlong =>
      have hany : (steps ++ [name]).any (·.contains '\x00') = false := by
        rw [List.any_append, Bool.or_eq_true, not_or] at hnull
        rw [List.any_append, Bool.eq_false_iff.2 hnull.1]
        simp only [List.any_cons, List.any_nil, hascii.not_contains_null, Bool.or_self]
      have hshort : ¬ pathLimit < (Text.utf8 (written (steps ++ [name]))).length := by
        rw [hlead longer hroot', Text.utf8_append, List.length_append] at hlong
        rw [hlead name hroot, Text.utf8_append, List.length_append, hascii.length_utf8]
        omega
      rw [refusal?, hany, if_neg (by decide), if_neg hshort]

end FileTree

end QueryFence
