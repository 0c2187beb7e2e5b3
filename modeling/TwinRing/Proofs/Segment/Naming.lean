import TwinRing.Segment.Name
/-!
# Segment names — which texts give them

A name is given by exactly two texts, with its slash and without
(`ofString_eq_ok_iff`). So to read a name as it is shown is to come back to
it, and two texts that give names give the same one if they differ by the
slash at most. What a system call takes of a name is a text with a zero
byte at its end and none before: the encoding of a character has a zero
byte only if the character is NUL.
-/

namespace TwinRing

/-- **A text as a system call takes it**: its bytes in UTF-8 and a zero
byte after them. The system would take a zero byte among them for the end,
so a text that has one cannot be passed on. -/
def zeroTerminated? (text : String) : Option (List UInt8) :=
  let bytes := text.toUTF8.data.toList
  if 0 ∈ bytes then none else some (bytes ++ [0])

/-- **Only NUL is encoded with a zero byte.** All other bytes of an encoding
have their highest bit set, or are the character itself. -/
theorem zero_notMem_utf8EncodeChar {c : Char} (h : c ≠ '\x00') :
    (0 : UInt8) ∉ String.utf8EncodeChar c := by
  have hpos : c.val.toNat ≠ 0 := fun hzero =>
    h (Char.ext (UInt32.toNat_inj.1 hzero))
  have nonzero : ∀ n < 256, 0 < n → (0 : UInt8) ≠ UInt8.ofNat n := by
    intro n hlt hn heq
    have htoNat := congrArg UInt8.toNat heq
    rw [UInt8.toNat_ofNat_of_lt' hlt] at htoNat
    exact (Nat.ne_of_lt hn) htoNat
  unfold String.utf8EncodeChar
  dsimp only
  split
  · rw [List.mem_singleton]
    exact nonzero _ (by omega) (by omega)
  · split
    · simp only [List.mem_cons, List.not_mem_nil, or_false, not_or]
      exact ⟨nonzero _ (by omega) (by omega), nonzero _ (by omega) (by omega)⟩
    · split
      · simp only [List.mem_cons, List.not_mem_nil, or_false, not_or]
        exact ⟨nonzero _ (by omega) (by omega), nonzero _ (by omega) (by omega),
          nonzero _ (by omega) (by omega)⟩
      · simp only [List.mem_cons, List.not_mem_nil, or_false, not_or]
        exact ⟨nonzero _ (by omega) (by omega), nonzero _ (by omega) (by omega),
          nonzero _ (by omega) (by omega), nonzero _ (by omega) (by omega)⟩

namespace SegmentName

variable {given given' : String} {name name' : SegmentName} {l : List Char}

/-- **What may stand after the slash of a name.** -/
def Proper (l : List Char) : Prop := l ≠ [] ∧ '/' ∉ l ∧ '\x00' ∉ l

theorem all_permits_iff : l.all permits = true ↔ '/' ∉ l ∧ '\x00' ∉ l := by
  rw [List.all_eq_true]
  constructor
  · intro h
    exact ⟨fun hslash => (permits_iff.1 (h _ hslash)).1 rfl,
      fun hnul => (permits_iff.1 (h _ hnul)).2 rfl⟩
  · rintro ⟨hslash, hnul⟩ c hc
    exact permits_iff.2 ⟨fun heq => hslash (heq ▸ hc), fun heq => hnul (heq ▸ hc)⟩

theorem proper_bare (name : SegmentName) : Proper name.bare :=
  ⟨name.bare_ne_nil, fun h => (name.bare_clean _ h).1 rfl, fun h => (name.bare_clean _ h).2 rfl⟩

/-- Where no slash stands in front, nothing is taken away. -/
theorem withoutSlash_of_notMem (h : '/' ∉ l) : withoutSlash l = l := by
  cases l with
  | nil => rfl
  | cons c rest =>
    unfold withoutSlash
    split
    · rename_i hslash
      obtain ⟨rfl, -⟩ := List.cons.inj hslash
      exact absurd (List.mem_cons_self ..) h
    · rfl

/-- At most one slash is taken away, and it is that in front. -/
theorem withoutSlash_cases (l : List Char) : l = '/' :: withoutSlash l ∨ l = withoutSlash l := by
  unfold withoutSlash
  split
  · exact .inl rfl
  · exact .inr rfl

/-! ## When a text gives a name -/

/-- A text gives the name that is left without the slash in front. -/
theorem ofString_eq_ok_iff_withoutSlash :
    ofString given = .ok name ↔ withoutSlash given.toList = name.bare := by
  obtain ⟨bare, hne, hclean⟩ := name
  unfold ofString ofString?
  cases hrest : withoutSlash given.toList with
  | nil => exact ⟨fun h => (by cases h), fun h => absurd h.symm hne⟩
  | cons c rest =>
    dsimp only
    by_cases hpermitted : (c :: rest).all permits = true
    · rw [dif_pos hpermitted]
      dsimp only
      rw [Except.ok.injEq, SegmentName.mk.injEq]
    · rw [dif_neg hpermitted]
      refine ⟨fun h => (by cases h), fun h => ?_⟩
      have hproper := proper_bare ⟨bare, hne, hclean⟩
      exact absurd (all_permits_iff.2 ⟨h ▸ hproper.2.1, h ▸ hproper.2.2⟩) hpermitted

/-- **A text gives a name** exactly if what is left of it is proper. -/
theorem exists_ofString_iff :
    (∃ name, ofString given = .ok name) ↔ Proper (withoutSlash given.toList) := by
  constructor
  · rintro ⟨name, hname⟩
    rw [ofString_eq_ok_iff_withoutSlash.1 hname]
    exact name.proper_bare
  · rintro ⟨hne, hslash, hnul⟩
    refine ⟨⟨_, hne, fun c hc => ?_⟩, ofString_eq_ok_iff_withoutSlash.2 rfl⟩
    exact ⟨fun heq => hslash (heq ▸ hc), fun heq => hnul (heq ▸ hc)⟩

/-- **A text that gives none is reported as it stands.** -/
theorem ofString_of_not_proper (h : ¬ Proper (withoutSlash given.toList)) :
    ofString given = .error (.invalidName given) := by
  cases hname : ofString? given with
  | none => rw [ofString, hname]
  | some name =>
    have hok : ofString given = .ok name := by rw [ofString, hname]
    exact absurd (exists_ofString_iff.1 ⟨name, hok⟩) h

/-! ## Which texts give one name -/

theorem full_eq (name : SegmentName) : name.full = "/" ++ String.ofList name.bare := by
  rw [full, ← List.singleton_append, String.ofList_append]

/-- **Two texts give a name**: with its slash, and without. -/
theorem ofString_eq_ok_iff :
    ofString given = .ok name ↔ given = name.full ∨ given = String.ofList name.bare := by
  rw [ofString_eq_ok_iff_withoutSlash]
  constructor
  · intro h
    rcases withoutSlash_cases given.toList with hslash | hplain
    · rw [h] at hslash
      exact .inl (by rw [full, ← hslash, String.ofList_toList])
    · rw [h] at hplain
      exact .inr (by rw [← hplain, String.ofList_toList])
  · rintro (rfl | rfl)
    · rw [full, String.toList_ofList]
      rfl
    · rw [String.toList_ofList]
      exact withoutSlash_of_notMem name.proper_bare.2.1

/-- The text that a name is shown as gives the name. -/
theorem ofString_full (name : SegmentName) : ofString name.full = .ok name :=
  ofString_eq_ok_iff.2 (.inl rfl)

/-- So does what follows the slash. -/
theorem ofString_bare (name : SegmentName) : ofString (String.ofList name.bare) = .ok name :=
  ofString_eq_ok_iff.2 (.inr rfl)

/-- Names that are shown alike are the same. -/
theorem full_inj : name.full = name'.full ↔ name = name' := by
  refine ⟨fun h => ?_, congrArg full⟩
  have hsame := ofString_full name
  rw [h, ofString_full] at hsame
  exact (Except.ok.inj hsame).symm

/-- **Two texts that give names give the same one** exactly if they differ
by one slash in front at most. -/
theorem full_eq_full_iff (h : ofString given = .ok name) (h' : ofString given' = .ok name') :
    name.full = name'.full ↔ given = given' ∨ given = "/" ++ given' ∨ given' = "/" ++ given := by
  rw [full_inj]
  constructor
  · rintro rfl
    rcases ofString_eq_ok_iff.1 h with rfl | rfl <;> rcases ofString_eq_ok_iff.1 h' with rfl | rfl
    · exact .inl rfl
    · exact .inr (.inl name.full_eq)
    · exact .inr (.inr name.full_eq)
    · exact .inl rfl
  · -- with a slash more in front it can only be the text without that gives the name
    have one_more : ∀ {a b : String} {n m : SegmentName}, ofString a = .ok n →
        ofString b = .ok m → a = "/" ++ b → n = m := by
      rintro a b n m ha hb rfl
      rw [ofString_eq_ok_iff_withoutSlash, String.toList_append] at ha
      have hbare : b.toList = n.bare := ha
      have hsame : b = String.ofList n.bare := by rw [← hbare, String.ofList_toList]
      rw [hsame, ofString_bare] at hb
      exact Except.ok.inj hb
    rintro (rfl | hmore | hmore)
    · exact Except.ok.inj (h.symm.trans h')
    · exact one_more h h' hmore
    · exact (one_more h' h hmore).symm

/-! ## What a system call takes of a name -/

/-- **A name can be passed to a system call**, and is passed with its slash
and a zero byte after it. -/
theorem zeroTerminated?_full (name : SegmentName) :
    zeroTerminated? name.full = some name.terminated := by
  have hbytes : name.full.toUTF8.data.toList =
      ('/' :: name.bare).flatMap String.utf8EncodeChar := by
    rw [full, String.toUTF8_eq_toByteArray, String.toByteArray_ofList]
    exact List.toList_data_toByteArray
  have hclean : (0 : UInt8) ∉ ('/' :: name.bare).flatMap String.utf8EncodeChar := by
    intro hmem
    obtain ⟨c, hc, hzero⟩ := List.mem_flatMap.1 hmem
    refine zero_notMem_utf8EncodeChar ?_ hzero
    rcases List.mem_cons.1 hc with rfl | hbare
    · decide
    · exact (name.bare_clean c hbare).2
  unfold zeroTerminated?
  dsimp only
  rw [hbytes, if_neg hclean]
  rfl

end SegmentName

end TwinRing
