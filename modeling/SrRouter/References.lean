import SrRouter.Consistency

/-!
The pointer that `sr_arpcache_queuereq` returns.

The lock is released before `sr_send_routed_ip_packet` reads the request
through that pointer, and sends it for the first time. A pass of the timer
thread in between frees the record if the request is due and was sent five
times. `HarmlessPass` excludes exactly these passes: where they are excluded
the pointer refers to a record of the queue whenever it is used, and where
one of them happens the thread goes on to use a pointer to a freed record.
-/

namespace SrRouter

open ByteBuffer Interactive

/-- The next operation of the thread does not go through a pointer to a
record that is not on the queue. -/
def Live (c : Conf Res SrInstance) : Prop :=
  match c.prog with
  | .pure _ => True
  | .call o _ => ¬o.Dangles c.state

instance (c : Conf Res SrInstance) : Decidable (Live c) := by
  unfold Live
  split <;> infer_instance

/-- The program still goes through the pointer `req`, without getting it
anew. -/
inductive StillUses (req : Addr) : Program → Prop
  | now {o : Op} {next : Res o → Program} (h : o.derefs = some req) : StillUses req (.call o next)
  | later {o : Op} {next : Res o → Program} (h : ∀ ip origin buf iface,
      o ≠ .queuereq ip origin buf iface) (r : Res o) (hr : StillUses req (next r)) :
      StillUses req (.call o next)

/-- A pass at `now` that gives up no request that the packet thread still
uses. -/
def HarmlessPass (p : Program) (sr : SrInstance) (now : Int) : Prop :=
  ∀ r ∈ sr.requests, r.Expired now → ¬StillUses r.addr p

/-! ### Who holds a pointer -/

def ThreadState.Holds (g : ThreadState) (req : Addr) : Prop := g = .returned req ∨ g = .sending req

section Holds

variable {P : UInt8 → UInt8 → Frame → Prop} {g : ThreadState} {req : Addr}

theorem holds_of_derefs {o : Op} (hguard : (packetDiscipline P).guard g o)
    (h : o.derefs = some req) : g.Holds req := by
  cases o with
  | readRequest a =>
      obtain rfl := Option.some.inj h
      cases g with
      | returned q => exact .inl (by rw [show a = q from hguard])
      | sending q => exact .inr (by rw [show a = q from hguard])
      | free | missed => exact absurd hguard not_false
  | writeSent a sent =>
      obtain rfl := Option.some.inj h
      cases g with
      | sending q => exact .inr (by rw [show a = q from hguard])
      | free | missed | returned => exact absurd hguard not_false
  | incTimesSent a =>
      obtain rfl := Option.some.inj h
      cases g with
      | sending q => exact .inr (by rw [show a = q from hguard])
      | free | missed | returned => exact absurd hguard not_false
  | lookup | queuereq | insert | destroy | time | trace => cases h

/-- Only `sr_arpcache_queuereq` makes the thread hold a pointer. -/
theorem holds_of_next {o : Op} {r : Res o} (hguard : (packetDiscipline P).guard g o)
    (ho : ∀ ip origin buf iface, o ≠ .queuereq ip origin buf iface)
    (h : ((packetDiscipline P).next g o r).Holds req) : g.Holds req := by
  cases o with
  | queuereq ip origin buf iface => exact absurd rfl (ho ip origin buf iface)
  | lookup ip =>
      cases g with
      | free =>
          cases r with
          | none => simp [packetDiscipline, ThreadState.Holds] at h
          | some entry => exact h
      | missed | returned | sending => exact absurd hguard not_false
  | readRequest a =>
      cases g with
      | returned q =>
          simp only [packetDiscipline] at h
          split at h
          · exact .inl (by simpa [ThreadState.Holds] using h)
          · simp [ThreadState.Holds] at h
      | sending q => exact h
      | free | missed => exact absurd hguard not_false
  | incTimesSent a =>
      cases g with
      | sending q => simp [packetDiscipline, ThreadState.Holds] at h
      | free | missed | returned => exact absurd hguard not_false
  | insert mac ip => cases g <;> exact h
  | destroy a => cases g <;> exact h
  | writeSent a sent => cases g <;> exact h
  | time => cases g <;> exact h
  | trace e => cases g <;> exact h

theorem holds_of_stillUses {p : Program} (h : StillUses req p) (hp : Uses P g p) :
    g.Holds req := by
  induction h generalizing g with
  | now h => exact holds_of_derefs hp.1 h
  | later ho r _ ih => exact holds_of_next hp.1 ho (ih (hp.2 r))

theorem Uses.cases_holds {p : Program} (hp : Uses P g p) (h : g.Holds req) :
    ∃ o next, p = .call o next ∧ (o.derefs = some req ∨ o.derefs = none ∧
      (∀ ip origin buf iface, o ≠ .queuereq ip origin buf iface) ∧
      (∀ s, (exec o s).2.requests = s.requests) ∧
      ∀ r, ((packetDiscipline P).next g o r).Holds req) := by
  cases p with
  | pure a =>
      obtain rfl : g = .free := hp
      simp [ThreadState.Holds] at h
  | call o next =>
      refine ⟨o, next, rfl, ?_⟩
      have hguard := hp.1
      obtain rfl | rfl := h
      · cases o with
        | readRequest a => exact .inl (congrArg some hguard)
        | time => exact .inr ⟨rfl, (fun _ _ _ _ ho => by cases ho), fun _ => rfl, fun _ => .inl rfl⟩
        | trace e =>
            exact .inr ⟨rfl, (fun _ _ _ _ ho => by cases ho), fun _ => rfl, fun _ => .inl rfl⟩
        | lookup | queuereq | insert | destroy | writeSent | incTimesSent =>
            exact absurd hguard not_false
      · cases o with
        | readRequest a => exact .inl (congrArg some hguard)
        | writeSent a sent => exact .inl (congrArg some hguard)
        | incTimesSent a => exact .inl (congrArg some hguard)
        | time => exact .inr ⟨rfl, (fun _ _ _ _ ho => by cases ho), fun _ => rfl, fun _ => .inr rfl⟩
        | trace e =>
            exact .inr ⟨rfl, (fun _ _ _ _ ho => by cases ho), fun _ => rfl, fun _ => .inr rfl⟩
        | lookup | queuereq | insert | destroy => exact absurd hguard not_false

/-- A thread that holds a pointer still uses it. -/
theorem stillUses_of_holds {p : Program} (hp : Uses P g p) (h : g.Holds req) :
    StillUses req p := by
  induction p generalizing g with
  | pure a =>
      obtain ⟨o, next, heq, -⟩ := hp.cases_holds h
      cases heq
  | call o next ih =>
      obtain ⟨o', next', heq, hderefs | ⟨-, ho, -, hnext⟩⟩ := hp.cases_holds h
      · cases heq
        exact .now hderefs
      · cases heq
        have r : Res o := (exec o (SrInstance.init ⟨[], []⟩ 0).store).1
        exact .later ho r (ih r (hp.2 r) (hnext r))

/-- A thread that holds a pointer to a freed record goes on to use it. -/
theorem exists_not_live {allowed : Program → SrInstance → Int → Prop} {p : Program}
    {sr : SrInstance} (hp : Uses P g p) (h : g.Holds req) (hfreed : req ∉ sr.store.addrs) :
    ∃ c, Interleaved.Reaches (threads allowed) ⟨p, sr⟩ c ∧ ¬Live c := by
  induction p generalizing g sr with
  | pure a =>
      obtain ⟨o, next, heq, -⟩ := hp.cases_holds h
      cases heq
  | call o next ih =>
      obtain ⟨o', next', heq, hderefs | ⟨hnone, -, hrequests, hnext⟩⟩ := hp.cases_holds h
      · cases heq
        exact ⟨_, .refl, fun hlive => hlive ⟨req, hderefs, hfreed⟩⟩
      · cases heq
        have hlive : ¬o.Dangles sr := by
          rintro ⟨a, ha, -⟩
          rw [hnone] at ha
          cases ha
        let sr' : SrInstance := { sr with store := (exec o sr.store).2 }
        have hfreed' : req ∉ sr'.store.addrs := by
          rw [Store.addrs, hrequests]
          exact hfreed
        obtain ⟨c, hreach, hc⟩ := ih (exec o sr.store).1 (hp.2 _) (hnext _) hfreed'
        exact ⟨c, .head (.thread hlive) hreach, hc⟩

end Holds

/-! ### What keeps the pointer live -/

theorem mem_addrs_srArpcacheQueuereq (s : Store) (ip : UInt32) (origin : Origin) (buf : Frame)
    (iface : Name) : (srArpcacheQueuereq s ip origin buf iface).1 ∈
      (srArpcacheQueuereq s ip origin buf iface).2.addrs := by
  have hlink (s : Store) (req : Addr) :
      (s.linkPacket req ip origin buf iface).addrs = s.addrs := s.addrs_update req fun _ => rfl
  unfold srArpcacheQueuereq
  cases hfind : s.requests.find? fun r => r.ip == ip with
  | some r =>
      simp only [hlink]
      exact List.mem_map_of_mem (List.mem_of_find?_eq_some hfind)
  | none => simp [Store.addrs]

structure Held (g : ThreadState) (s : Store) : Prop where
  coherent : Coherent g s
  live : ∀ req, g.Holds req → req ∈ s.addrs

theorem Held.exec {P : UInt8 → UInt8 → Frame → Prop} {g : ThreadState} {o : Op} {s : Store}
    (h : Held g s) (hguard : (packetDiscipline P).guard g o) :
    Held ((packetDiscipline P).next g o (exec o s).1) (SrRouter.exec o s).2 := by
  refine ⟨h.coherent.exec hguard, fun req hreq => ?_⟩
  have hheld (ho : ∀ ip origin buf iface, o ≠ .queuereq ip origin buf iface) : req ∈ s.addrs :=
    h.live req (holds_of_next hguard ho hreq)
  cases o with
  | lookup | readRequest | time | trace => exact hheld fun _ _ _ _ ho => by cases ho
  | queuereq ip origin buf iface =>
      cases g with
      | missed q =>
          obtain hreturned | hsending := hreq
          · obtain rfl := ThreadState.returned.inj hreturned
            exact mem_addrs_srArpcacheQueuereq ..
          · cases hsending
      | free | returned | sending => exact absurd hguard not_false
  | insert mac ip =>
      cases g with
      | free => simp [packetDiscipline, ThreadState.Holds] at hreq
      | missed | returned | sending => exact absurd hguard not_false
  | destroy a =>
      cases g with
      | free => simp [packetDiscipline, ThreadState.Holds] at hreq
      | missed | returned | sending => exact absurd hguard not_false
  | writeSent a sent =>
      rw [show (SrRouter.exec (.writeSent a sent) s).2.addrs = s.addrs from
        s.addrs_update a fun _ => rfl]
      exact hheld fun _ _ _ _ ho => by cases ho
  | incTimesSent a =>
      rw [show (SrRouter.exec (.incTimesSent a) s).2.addrs = s.addrs from
        s.addrs_update a fun _ => rfl]
      exact hheld fun _ _ _ _ ho => by cases ho

/-- A harmless pass leaves a request that the thread still uses on the queue. -/
theorem Held.env {g : ThreadState} {p : Program} {sr sr' : SrInstance} (h : Held g sr.store)
    {P : UInt8 → UInt8 → Frame → Prop} (hp : Uses P g p)
    (henv : Surroundings HarmlessPass p sr sr') : Held g sr'.store := by
  refine ⟨h.coherent.env henv, fun req hreq => ?_⟩
  have hmem := h.live req hreq
  cases henv with
  | timer now hharmless =>
      obtain ⟨r, hr, rfl⟩ := List.mem_map.mp hmem
      have hkept : ¬r.Expired now := fun hexp =>
        hharmless r hr hexp (stillUses_of_holds hp hreq)
      have hwf := h.coherent.consistent.wf.setNow now
      obtain ⟨r', hr', hout⟩ := exists_outcome_srArpcacheTimeout sr.config hwf hr hkept
      rw [← hout.addr]
      exact List.mem_map_of_mem hr'
  | clock => exact hmem
  | hwinfo mem entries =>
      rw [SrInstance.step_hwinfo_store]
      exact hmem

theorem held_of_reaches (config : Config) (now : Int) {c : Conf Res SrInstance}
    (h : Interleaved.Reaches (threads HarmlessPass) (atInit config now) c) :
    c.Within (packetDiscipline fun _ _ _ => True) (fun g => g = .free)
      (fun g sr => Held g sr.store) := by
  have hinit : (atInit config now).Within (packetDiscipline fun _ _ _ => True)
      (fun g => g = .free) (fun g sr => Held g sr.store) :=
    ⟨.free, ⟨⟨consistent_init now, fun _ hip => by cases hip⟩,
      fun req hreq => by simp [ThreadState.Holds] at hreq⟩, rfl⟩
  have hstart (g : ThreadState) (sr : SrInstance) (p : Program) (hI : Held g sr.store)
      (hg : g = .free) (hp : (threads HarmlessPass).start sr p) :
      ∃ g', Held g' sr.store ∧ Uses (fun _ _ _ => True) g' p := by
    obtain ⟨packet, interface, rfl⟩ := hp
    subst hg
    exact ⟨.free, hI, uses_srHandlepacket sr.config interface (fun _ _ => trivial)
      (fun _ _ => trivial) fun _ _ _ => trivial⟩
  exact Interleaved.invariant (fun g o sr hI hguard _ => hI.exec hguard)
    (fun g o sr r hI hguard hdangles =>
      -- Nothing dangles: what is dereferenced is held.
      have ⟨a, ha, hfreed⟩ := hdangles
      absurd (hI.live a (holds_of_derefs hguard ha)) hfreed)
    (fun g p sr sr' hI hp henv => hI.env hp henv) hstart hinit h

/-- **Live request references.** In a run in which every pass of the timer
thread is harmless, the packet thread only ever goes through a pointer to a
request that is on the queue. And no other pass is safe: behind one that
gives up a request in use, the thread goes through the pointer to it. -/
theorem dereferences_live (config : Config) (now : Int) {c : Conf Res SrInstance}
    (h : Interleaved.Reaches (threads HarmlessPass) (atInit config now) c) :
    Live c ∧ ∀ t, ¬HarmlessPass c.prog c.state t →
      ∃ c', Interleaved.Reaches (threads HarmlessPass) ⟨c.prog, c.state.step (.timer t)⟩ c' ∧
        ¬Live c' := by
  obtain ⟨g, hheld, hp⟩ := held_of_reaches config now h
  obtain ⟨p, sr⟩ := c
  constructor
  · cases p with
    | pure => trivial
    | call o next =>
        rintro ⟨a, ha, hfreed⟩
        exact hfreed (hheld.live a (holds_of_derefs hp.1 ha))
  · intro t hharm
    simp only [HarmlessPass, not_forall, not_not] at hharm
    obtain ⟨r, hr, hexp, huses⟩ := hharm
    have hwf := hheld.coherent.consistent.wf.setNow t
    refine exists_not_live hp (holds_of_stillUses huses hp) fun hmem => ?_
    obtain ⟨r', hr', haddr⟩ := List.mem_map.mp hmem
    exact not_mem_srArpcacheTimeout sr.config hwf hr hexp hr' haddr

/-- The first packet is put on a request, a pass sends the request, and only
then does the packet thread read it. -/
theorem dereferences_live_twoNetworks :
    Live (schedule [.frame crossingFrame eth2.name, .thread, .thread, .timer 1]
      (atInit twoNetworks 0)) := by
  have hreach : Interleaved.Reaches (threads HarmlessPass) (atInit twoNetworks 0)
      (schedule [.frame crossingFrame eth2.name, .thread, .thread] (atInit twoNetworks 0)) :=
    .trans (reaches_take _ (.frame crossingFrame eth2.name) fun _ hp => by cases hp)
      (.trans (reaches_take _ .thread fun _ hp => by cases hp)
        (reaches_take _ .thread fun _ hp => by cases hp))
  refine (dereferences_live twoNetworks 0 (hreach.trans (reaches_take _ (.timer 1) ?_))).1
  rintro now htimer r hr hexp
  obtain rfl := Choice.timer.inj htimer
  -- no request has been sent five times
  refine absurd hexp ?_
  clear hexp
  revert r
  decide +kernel

/-- The first packet waits while the request for its next hop is sent five
times. Then the pass that gives it up falls between the queueing of a second
packet and the reading of the request. -/
theorem exists_dangling_dereference :
    ¬∀ config now c, Interleaved.Reaches (threads anyPass) (atInit config now) c → Live c := by
  intro hall
  have hlive := hall twoNetworks 0 _ (reaches_schedule
    (.frame crossingFrame eth2.name :: List.replicate 8 .thread ++
      [.timer 1, .timer 2, .timer 3, .timer 4, .frame crossingFrame eth2.name, .thread, .thread,
        .timer 5]) _)
  exact absurd hlive (by decide)

end SrRouter
