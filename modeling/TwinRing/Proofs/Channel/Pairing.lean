import TwinRing.Proofs.Channel.Caller
import TwinRing.Proofs.Commons.Sharing
import TwinRing.Proofs.Duplex.Building
/-!
# Channels — which rings a build takes

A channel that is built under two names is between the two rings that they
stand for. Where both names were free it has made both, and they are empty
(`Opened.founds`). Where both were bound it has joined both, and has
changed no more than that it has cleared what it was asked to clear
(`Opened.joins`).
-/

namespace TwinRing

namespace Store

variable {s s' : Store} {name : SegmentName} {given : String}

theorem boundTo_of_name (h : SegmentName.ofString given = .ok name) :
    s.boundTo given = s.lookup name := by
  rw [boundTo, h]

theorem boundTo_congr (h : s'.names = s.names) (given : String) :
    s'.boundTo given = s.boundTo given := by
  simp only [boundTo, lookup, h]

/-- **Two rings that are found by two names**, and what each of them
carries. -/
structure Paired (g : Geometry) (inName outName : String) (i o : Nat) (x y : Option Bytes)
    (s : Store) : Prop extends Ring.Pair g i o x y s where
  boundIn : s.boundTo inName = some i
  boundOut : s.boundTo outName = some o

namespace Paired

variable {g : Geometry} {inName outName : String} {i o : Nat} {x y x' y' : Option Bytes}

theorem symm (h : Paired g inName outName i o x y s) : Paired g outName inName o i y x s :=
  ⟨h.toPair.symm, h.boundOut, h.boundIn⟩

/-- What changes no name leaves the rings found by theirs. -/
theorem of_pair (h : Paired g inName outName i o x y s) (hpair : Ring.Pair g i o x' y' s')
    (hnames : s'.names = s.names) : Paired g inName outName i o x' y' s' :=
  ⟨hpair, (boundTo_congr hnames inName).trans h.boundIn,
    (boundTo_congr hnames outName).trans h.boundOut⟩

end Paired

end Store

namespace Channel

variable {config : Config} {s s₁ s₂ s' : Store} {c : Channel} {g : Geometry} {i o n : Nat}
variable {v : View} {asked : Bool}

/-- What a clear, if it is asked for, makes of its ring. -/
theorem object_clearIf_self (asked : Bool) (live : v.handle.object < s.objects.size) :
    (clearIf asked v s).object v.handle.object =
      if asked then Ring.clear (s.object v.handle.object) else s.object v.handle.object := by
  cases asked with
  | true => exact Store.object_setObject_self live
  | false => rfl

theorem object_clearIf_of_ne (asked : Bool) (h : v.handle.object ≠ n) :
    (clearIf asked v s).object n = s.object n := by
  cases asked with
  | true => exact Store.object_setObject_of_ne h
  | false => rfl

namespace Opened

variable (h : Opened config s s₁ s₂ s' c)
include h

theorem names_eq : s'.names = s₂.names ∧ s'.objects.size = s₂.objects.size := by
  obtain ⟨faults, journal, rfl⟩ := h.store
  have hin := size_clearIf config.clearIn c.inbound.view s₂
  have hout := size_clearIf config.clearOut c.outbound.view
    (clearIf config.clearIn c.inbound.view s₂)
  exact ⟨hout.2.trans hin.2, hout.1.trans hin.1⟩

/-- What the clears have made of the two rings. -/
theorem objects_eq (apart : c.inbound.view.handle.object ≠ c.outbound.view.handle.object)
    (live : c.inbound.view.handle.object < s₂.objects.size)
    (live' : c.outbound.view.handle.object < s₂.objects.size) :
    s'.object c.inbound.view.handle.object =
        (if config.clearIn then Ring.clear (s₂.object c.inbound.view.handle.object)
          else s₂.object c.inbound.view.handle.object) ∧
      s'.object c.outbound.view.handle.object =
        if config.clearOut then Ring.clear (s₂.object c.outbound.view.handle.object)
          else s₂.object c.outbound.view.handle.object := by
  obtain ⟨faults, journal, rfl⟩ := h.store
  constructor
  · exact (object_clearIf_of_ne config.clearOut apart.symm).trans
      (object_clearIf_self config.clearIn live)
  · refine (object_clearIf_self config.clearOut ?_).trans ?_
    · rw [(size_clearIf config.clearIn c.inbound.view s₂).1]
      exact live'
    · rw [object_clearIf_of_ne config.clearIn apart]

/-- **A build under two free names** makes two rings, and they are
empty. -/
theorem founds
    (different : SegmentName.ofString config.inName ≠ SegmentName.ofString config.outName)
    (freeIn : s.boundTo config.inName = none) (freeOut : s.boundTo config.outName = none) :
    s'.Paired g config.inName config.outName c.inbound.view.handle.object
      c.outbound.view.handle.object none none := by
  have hin := Store.ringTaken_of_openRing h.inbound
  have hout := Store.ringTaken_of_openRing h.outbound
  have hfounded := Store.ringsFounded_of_taken hin hout
    (fun heq => different (by rw [hin.name, hout.name, heq]))
    ((Store.boundTo_of_name hin.name).symm.trans freeIn)
    ((Store.boundTo_of_name hout.name).symm.trans freeOut)
  obtain ⟨hnames, hsize⟩ := h.names_eq
  obtain ⟨hobject, hobject'⟩ := h.objects_eq hfounded.apart hfounded.live hfounded.live'
  have hempty : ∀ (asked : Bool) (r : Object), Ring.Fresh r →
      Ring.Carries g (if asked then Ring.clear r else r) none := fun asked r hr => by
    cases asked with
    | true => exact Ring.carries_clear r
    | false => exact Ring.carries_of_fresh hr
  exact {
    apart := hfounded.apart
    inLive := hsize.symm ▸ hfounded.live
    outLive := hsize.symm ▸ hfounded.live'
    inbound := hobject.symm ▸ hempty _ _ hfounded.fresh
    outbound := hobject'.symm ▸ hempty _ _ hfounded.fresh'
    boundIn := (Store.boundTo_congr hnames _).trans
      ((Store.boundTo_of_name hin.name).trans hfounded.bound)
    boundOut := (Store.boundTo_congr hnames _).trans
      ((Store.boundTo_of_name hout.name).trans hfounded.bound') }

/-- **A build under two bound names** joins their rings, and clears what it
was asked to clear. -/
theorem joins (boundIn : s.boundTo config.inName = some i)
    (boundOut : s.boundTo config.outName = some o) (apart : i ≠ o) (live : i < s.objects.size)
    (live' : o < s.objects.size) :
    c.inbound.view.handle.object = i ∧ c.outbound.view.handle.object = o ∧
      s'.names = s.names ∧ s'.objects.size = s.objects.size ∧
      s'.object i = (if config.clearIn then Ring.clear (s.object i) else s.object i) ∧
      s'.object o = if config.clearOut then Ring.clear (s.object o) else s.object o := by
  have hin := Store.ringTaken_of_openRing h.inbound
  have hout := Store.ringTaken_of_openRing h.outbound
  have hbound := (Store.boundTo_of_name hin.name).symm.trans boundIn
  have hjoined := hin.joined i hbound
  have hbound' : s₁.lookup c.outbound.view.name = some o := by
    rw [← Store.boundTo_of_name hout.name, Store.boundTo_congr hjoined.names]
    exact boundOut
  have hjoined' := hout.joined o hbound'
  obtain rfl : c.inbound.view.handle.object = i :=
    Option.some.inj (hjoined.bound.symm.trans hbound)
  obtain rfl : c.outbound.view.handle.object = o :=
    Option.some.inj (hjoined'.bound.symm.trans hbound')
  obtain ⟨hnames, hsize⟩ := h.names_eq
  have hkept : s₂.objects.size = s.objects.size := hjoined'.size.trans hjoined.size
  obtain ⟨hobject, hobject'⟩ := h.objects_eq apart (hkept.symm ▸ live) (hkept.symm ▸ live')
  have hsame : ∀ k < s.objects.size, s₂.object k = s.object k := fun k hk =>
    (hout.objects k (hjoined.size.symm ▸ hk)).trans (hin.objects k hk)
  rw [hsame _ live] at hobject
  rw [hsame _ live'] at hobject'
  exact ⟨rfl, rfl, (hnames.trans hjoined'.names).trans hjoined.names, hsize.trans hkept, hobject,
    hobject'⟩

end Opened

end Channel

end TwinRing
