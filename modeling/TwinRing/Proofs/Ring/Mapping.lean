import TwinRing.Proofs.Ring.Residue
import TwinRing.Proofs.Ring.Strict
/-!
# Ring views — what is mapped

An open of a ring that succeeds has mapped as many bytes as the geometry
asks for, and the object has no less: its creator has given it that size,
and whoever joins has measured it. No call and no other holder of the
object changes that. So a view never touches what it has not mapped,
whatever the bytes of its ring are: `stays_within_mapping`. And it is on
its ring, as the calls of `View.perform_eq` ask: `View.Mapped.isOn`.
-/

namespace TwinRing

namespace Ring

variable {g : Geometry} {o : Object}

theorem size_copyIn (position : Nat) (bytes : Bytes) :
    (copyIn g position bytes o).size = o.size := by
  unfold copyIn
  dsimp only
  split <;> simp only [Object.size_write]

/-- **No call changes how many bytes an object has.** -/
theorem size_perform (g : Geometry) (call : RingCall) (o : Object) :
    (perform g call o).2.size = o.size := by
  cases call with
  | enqueue element =>
    simp only [perform, enqueue]
    split
    · rfl
    · split
      · rfl
      · split
        · rfl
        · rw [Object.size_setWord, size_copyIn]
  | dequeue buffer =>
    simp only [perform, dequeue]
    split
    · rfl
    · split
      · rfl
      · split
        · rfl
        · rw [Object.size_setWord]
  | clear =>
    simp only [perform, clear]
    split
    · rfl
    · rw [Object.size_setWord]
  | length => rfl
  | isEmpty => rfl
  | isFull => rfl

end Ring

/-- **What may befall a ring that is open**: a call through the view, or
any change of its bytes by others. -/
inductive Occurrence
  | call (c : RingCall)
  | meddled (cells : Array UInt8)

namespace View

variable {v : View} {g : Geometry} {s s' : Store} {given : String}

/-- The store after an occurrence. -/
def undergo (v : View) : Occurrence → Store → Store
  | .call c, s => (v.perform c s).2
  | .meddled cells, s => s.modifyObject v.handle.object fun o => { o with cells }

/-- The store after a number of them. -/
def undergoAll (v : View) (occurrences : List Occurrence) (s : Store) : Store :=
  occurrences.foldl (fun s e => v.undergo e s) s

/-- **A view whose mapping fits its object.** -/
structure Mapped (v : View) (g : Geometry) (s : Store) : Prop where
  geometry : v.geometry = g
  fits : Strict.Fits g v.handle.size.toNat (v.object s)

theorem mapped_of_openRing (h : s.openRing given g = (.ok v, s')) : v.Mapped g s' := by
  have hgranted := Store.ringGranted_of_openRing h
  obtain ⟨hvalid, htotal⟩ := Geometry.segmentSize_eq_ok_iff.1 hgranted.segmentSize
  exact ⟨hgranted.geometry, hvalid, by rw [htotal, Nat.add_comm], hgranted.granted.fits⟩

variable (h : v.Mapped g s)
include h

/-- **A view that an open has given is on its ring**, for an object of some
size is there. -/
theorem Mapped.isOn : v.IsOn g v.handle.object s := by
  refine ⟨h.geometry, rfl, h.fits.valid, Nat.lt_of_not_le fun hgone => ?_⟩
  have hnone : v.object s = {} := by
    rw [object, Store.object, Array.getD_eq_getD_getElem?, Array.getElem?_eq_none hgone]
    rfl
  have hle : v.handle.size.toNat ≤ 0 := by
    have hle := h.fits.mapped_le
    rwa [hnone] at hle
  have hmapped := h.fits.mapped_eq
  have hheader : 0 < Header.size := by decide
  omega

/-- **A call is what it is on a memory that refuses**, and leaves the
mapping as it is. -/
theorem Mapped.perform (call : RingCall) :
    Strict.perform g v.handle.size.toNat call (v.object s) =
        .ok ((v.perform call s).1, v.object (v.perform call s).2) ∧
      v.Mapped g (v.perform call s).2 := by
  obtain ⟨hanswer, hobject, -⟩ := perform_eq h.isOn call
  have hobject : v.object (v.perform call s).2 = (Ring.perform g call (v.object s)).2 := hobject
  have hsize : ((Ring.perform g call (v.object s)).2).size = (v.object s).size :=
    Ring.size_perform g call _
  refine ⟨?_, h.geometry, h.fits.valid, h.fits.mapped_eq, ?_⟩
  · rw [h.fits.perform_eq, hanswer, hobject]
    rfl
  · rw [hobject, hsize]
    exact h.fits.mapped_le

theorem Mapped.undergo (e : Occurrence) : v.Mapped g (v.undergo e s) := by
  cases e with
  | call c => exact (h.perform c).2
  | meddled cells =>
    have hobject : v.object (v.undergo (.meddled cells) s) = { v.object s with cells } :=
      Store.object_modifyObject_self h.isOn.live
    exact ⟨h.geometry, h.fits.valid, h.fits.mapped_eq, by rw [hobject]; exact h.fits.mapped_le⟩

theorem Mapped.undergoAll (occurrences : List Occurrence) :
    v.Mapped g (v.undergoAll occurrences s) := by
  induction occurrences generalizing s with
  | nil => exact h
  | cons e rest ih => exact ih (h.undergo e)

omit h

/-- **No access leaves the mapping**, whatever the segment holds. An open
that succeeds has mapped the header and the band and no more, and the
object has as many bytes. After any calls, and any changes of the bytes by
others, every call goes through on a memory that refuses what is outside
of the band to the copies and what is outside of the header to all else,
and with arithmetic that neither runs over nor under nor divides by zero;
and it is answered as the view answers it. -/
theorem stays_within_mapping (h : s.openRing given g = (.ok v, s'))
    (before : List Occurrence) (call : RingCall) :
    v.handle.size.toNat = Header.size + g.capacity.toNat * g.elementSize.toNat ∧
      g.bandSize.toNat = g.capacity.toNat * g.elementSize.toNat ∧
      v.handle.size.toNat ≤ (v.object (v.undergoAll before s')).size ∧
      Strict.perform g v.handle.size.toNat call (v.object (v.undergoAll before s')) =
        .ok ((v.perform call (v.undergoAll before s')).1,
          v.object (v.perform call (v.undergoAll before s')).2) := by
  have hmapped := (mapped_of_openRing h).undergoAll before
  have hfits := hmapped.fits
  exact ⟨hfits.mapped_eq, hfits.valid.bandSize_toNat, hfits.mapped_le, (hmapped.perform call).1⟩

/-- A segment that someone else has left, larger than it need be, with
indices about to run over. -/
def strayStore : Store :=
  { names := [(.ofLetter 'a' (Eq.refl true), 0)]
    objects := #[Ring.setIndices 0xfffffffffffffff8 0xfffffffffffffffb { size := 70 }] }

theorem stays_within_mapping_stray :
    ∃ v s', strayStore.openRing "a" ⟨2, 3⟩ = (.ok v, s') ∧
      v.handle.size.toNat = Header.size + 2 * 3 ∧ (⟨2, 3⟩ : Geometry).bandSize.toNat = 2 * 3 ∧
      v.handle.size.toNat ≤ (v.object (v.undergoAll [.call (.dequeue [0, 0, 0])] s')).size ∧
      Strict.perform ⟨2, 3⟩ v.handle.size.toNat (.enqueue [1, 2, 3])
          (v.object (v.undergoAll [.call (.dequeue [0, 0, 0])] s')) =
        .ok ((v.perform (.enqueue [1, 2, 3]) (v.undergoAll [.call (.dequeue [0, 0, 0])] s')).1,
          v.object (v.perform (.enqueue [1, 2, 3])
            (v.undergoAll [.call (.dequeue [0, 0, 0])] s')).2) := by
  have hopens : (strayStore.openRing "a" ⟨2, 3⟩).1.isOk = true := by decide +kernel
  rcases hopen : strayStore.openRing "a" ⟨2, 3⟩ with ⟨cause | v, s'⟩
  · rw [hopen] at hopens
    exact Bool.noConfusion hopens
  · exact ⟨v, s', rfl, stays_within_mapping hopen _ _⟩

end View

end TwinRing
