import SrRouter.Forwarding

/-!
The fate of a queued packet.

A packet that waits for an address is owned by one request. What the history
says about it is a list of at most two events: it was queued, and perhaps it
was released, by the mapping for the IP of its request or by the failure of
that request. The invariant ties this list to the queue: a packet on the
queue has only been queued, except that in the loop over the packets of a
failing request those behind the loop are on the queue and reported.

The router's own ICMP errors are not covered: those queued on a request while
it fails are destroyed with it.
-/

namespace SrRouter

open ByteBuffer CString Interactive

/-! ### What the history says about a packet -/

def Event.About (pkt : SrPacket) : Event → Prop
  | .queued _ _ p => p = pkt
  | .sendPacket (.flush p _ _) _ _ _ => p = pkt
  | .icmpError (some p) _ _ _ => p = pkt
  | _ => False

instance (pkt : SrPacket) : DecidablePred (Event.About pkt) := by
  intro e
  unfold Event.About
  split <;> infer_instance

def fate (pkt : SrPacket) (log : List (Int × Event)) : List (Int × Event) :=
  log.filter fun e => e.2.About pkt

theorem fate_append (pkt : SrPacket) (log log' : List (Int × Event)) :
    fate pkt (log ++ log') = fate pkt log ++ fate pkt log' := List.filter_append ..

theorem fate_eq_nil {pkt : SrPacket} {log : List (Int × Event)}
    (h : ∀ e ∈ log, ¬e.2.About pkt) : fate pkt log = [] := by
  simpa [fate] using h

theorem fate_concat {pkt : SrPacket} {e : Event} (he : ¬e.About pkt) (log : List (Int × Event))
    (t : Int) : fate pkt (log ++ [(t, e)]) = fate pkt log := by
  have hnil : fate pkt [(t, e)] = [] := fate_eq_nil (by simpa using he)
  rw [fate_append, hnil, List.append_nil]

theorem queued_mem_fate {t : Int} {req : Addr} {ip : UInt32} {pkt : SrPacket}
    {log : List (Int × Event)} (h : (t, .queued req ip pkt) ∈ log) :
    (t, .queued req ip pkt) ∈ fate pkt log := by
  simpa [fate, Event.About] using h

/-- How a received packet, queued at `t₀` on the request `req` for `ip`, left
the queue. -/
inductive Released (log : List (Int × Event)) (t₀ : Int) (req : Addr) (ip : UInt32)
    (pkt : SrPacket) : Prop
  /-- It was sent when a mapping for `ip` was learned. -/
  | sent {t : Int} {mac : Mac} {r : SrArpreq} {frame : Frame}
      (hlearned : (t, .learned mac ip (some r)) ∈ log)
      (hreq : r.addr = req) (hip : r.ip = ip) (hmem : pkt ∈ r.packets)
      (hdhost : etherDhost frame = mac) (hbody : SameBody frame pkt.buf)
      (hfate : fate pkt log =
        [(t₀, .queued req ip pkt), (t, .sendPacket (.flush pkt ip mac) pkt.iface frame 0)])
  /-- It was reported when the request had been sent five times and failed. -/
  | reported {t : Int} {r : SrArpreq} (hdestroyed : (t, .destroyed r) ∈ log)
      (hreq : r.addr = req) (hip : r.ip = ip) (hmem : pkt ∈ r.packets)
      (hmany : r.timesSent = 5) (hdue : r.Due t)
      (hfate : fate pkt log =
        [(t₀, .queued req ip pkt), (t, .icmpError (some pkt) 3 1 pkt.buf)])

theorem Released.append {log : List (Int × Event)} {t₀ : Int} {req : Addr} {ip : UInt32}
    {pkt : SrPacket} (h : Released log t₀ req ip pkt) {new : List (Int × Event)}
    (hnew : ∀ e ∈ new, ¬e.2.About pkt) : Released (log ++ new) t₀ req ip pkt := by
  have hsame : fate pkt (log ++ new) = fate pkt log := by
    rw [fate_append, fate_eq_nil hnew, List.append_nil]
  cases h with
  | sent hlearned hreq hip hmem hdhost hbody hfate =>
      exact .sent (List.mem_append_left new hlearned) hreq hip hmem hdhost hbody
        (hsame.trans hfate)
  | reported hdestroyed hreq hip hmem hmany hdue hfate =>
      exact .reported (List.mem_append_left new hdestroyed) hreq hip hmem hmany hdue
        (hsame.trans hfate)

theorem Released.concat {log : List (Int × Event)} {t₀ : Int} {req : Addr} {ip : UInt32}
    {pkt : SrPacket} (h : Released log t₀ req ip pkt) {e : Event} (he : ¬e.About pkt) (t : Int) :
    Released (log ++ [(t, e)]) t₀ req ip pkt := h.append (by simpa using he)

/-! ### The invariant -/

/-- The packet of the request at `req` is behind the loop that reports the
packets of that request. -/
def Phase.Behind : Phase → Addr → SrPacket → Prop
  | .idle, _, _ => False
  | .reporting a packets, req, pkt => a = req ∧ pkt ∉ packets

/-- Where every received packet that was ever queued is. -/
structure Conserved (p : Phase) (s : Store) : Prop where
  nodup : ∀ r ∈ s.requests, r.packets.Nodup
  lt : ∀ r ∈ s.requests, ∀ pkt ∈ r.packets, pkt.addr < s.heap
  old : ∀ e ∈ s.log, ∀ pkt, e.2.About pkt → pkt.addr < s.heap
  phase : ∀ req packets, p = .reporting req packets →
    ∃ r ∈ s.requests, r.addr = req ∧ 5 ≤ r.timesSent ∧ r.Due s.now ∧ packets <:+ r.packets
  waiting : ∀ r ∈ s.requests, ∀ pkt ∈ r.packets, pkt.origin = .received → ∃ t,
    (¬p.Behind r.addr pkt → fate pkt s.log = [(t, .queued r.addr r.ip pkt)]) ∧
    (p.Behind r.addr pkt → fate pkt s.log =
      [(t, .queued r.addr r.ip pkt), (s.now, .icmpError (some pkt) 3 1 pkt.buf)])
  released : ∀ t req ip pkt, (t, .queued req ip pkt) ∈ s.log → pkt.origin = .received →
    (∃ r ∈ s.requests, r.addr = req ∧ pkt ∈ r.packets) ∨ Released s.log t req ip pkt

theorem conserved_init (now : Int) : Conserved .idle ⟨srArpcacheInit, 0, now, []⟩ where
  nodup := fun _ h => absurd h List.not_mem_nil
  lt := fun _ h => absurd h List.not_mem_nil
  old := fun _ h => absurd h List.not_mem_nil
  phase _ _ hphase := by cases hphase
  waiting := fun _ h => absurd h List.not_mem_nil
  released := fun _ _ _ _ h => absurd h List.not_mem_nil

namespace Conserved

variable {p : Phase} {s : Store}

theorem trace (h : Conserved p s) {e : Event} (he : ∀ pkt, ¬e.About pkt) :
    Conserved p (s.trace e) where
  nodup := h.nodup
  lt := h.lt
  old := by
    intro q hq pkt habout
    obtain hq | hq := List.mem_append.mp hq
    · exact h.old q hq pkt habout
    · rw [List.mem_singleton.mp hq] at habout
      exact absurd habout (he pkt)
  phase := h.phase
  waiting := by
    intro r hr pkt hpkt horigin
    rw [Store.log_trace, fate_concat (he pkt)]
    exact h.waiting r hr pkt hpkt horigin
  released := by
    intro t req ip pkt hmem horigin
    obtain hmem | hmem := List.mem_append.mp hmem
    · exact (h.released t req ip pkt hmem horigin).imp_right fun hrel => hrel.concat (he pkt) _
    · obtain ⟨-, rfl⟩ := Prod.mk.inj (List.mem_singleton.mp hmem)
      exact absurd rfl (he pkt)

theorem asked (h : Conserved p s) (sr : Config) (ip : UInt32) (iface : Name) :
    Conserved p (s.asked sr ip iface) :=
  s.asked_cases sr ip iface h fun _ _ => h.trace fun _ habout => habout

theorem newRequest (h : Conserved p s) (ip : UInt32) : Conserved p (s.newRequest ip) := by
  have hlt {a : Addr} (ha : a < s.heap) : a < (s.newRequest ip).heap := Nat.lt_succ_of_lt ha
  have htrace := h.trace (e := .created s.heap ip) fun _ habout => habout
  refine ⟨?_, ?_, fun e he pkt habout => hlt (htrace.old e he pkt habout), ?_, ?_, ?_⟩
  · exact List.forall_mem_cons.mpr ⟨List.nodup_nil, h.nodup⟩
  · exact List.forall_mem_cons.mpr ⟨fun _ h => absurd h List.not_mem_nil,
      fun r hr pkt hpkt => hlt (h.lt r hr pkt hpkt)⟩
  · intro req packets hp
    obtain ⟨r, hr, hrest⟩ := h.phase req packets hp
    exact ⟨r, List.mem_cons_of_mem _ hr, hrest⟩
  · exact List.forall_mem_cons.mpr ⟨fun _ h => absurd h List.not_mem_nil, htrace.waiting⟩
  · intro t req ip' pkt hmem horigin
    refine (htrace.released t req ip' pkt hmem horigin).imp_left ?_
    rintro ⟨r, hr, hrest⟩
    exact ⟨r, List.mem_cons_of_mem _ hr, hrest⟩

theorem retried (h : Conserved p s) {req : Addr} (now : Int)
    (hreq : ∀ packets, p ≠ .reporting req packets) : Conserved p (s.retried req now) := by
  have hmem : ∀ r' ∈ (s.retried req now).requests, ∃ r ∈ s.requests, r'.addr = r.addr ∧
      r'.ip = r.ip ∧ r'.packets = r.packets ∧ (r.addr ≠ req → r' = r) := by
    intro r' hr'
    obtain ⟨r, hr, rfl⟩ := List.mem_map.mp hr'
    refine ⟨r, hr, ?_⟩
    split
    · next haddr => exact ⟨rfl, rfl, rfl, fun hne => absurd haddr hne⟩
    · exact ⟨rfl, rfl, rfl, fun _ => rfl⟩
  have hkeep : ∀ r ∈ s.requests, ∃ r' ∈ (s.retried req now).requests, r'.addr = r.addr ∧
      r'.packets = r.packets ∧ (r.addr ≠ req → r' = r) := by
    intro r hr
    refine ⟨_, List.mem_map_of_mem hr, ?_⟩
    split
    · next haddr => exact ⟨rfl, rfl, fun hne => absurd haddr hne⟩
    · exact ⟨rfl, rfl, fun _ => rfl⟩
  refine ⟨?_, ?_, h.old, ?_, ?_, ?_⟩
  · intro r' hr'
    obtain ⟨r, hr, -, -, hpackets, -⟩ := hmem r' hr'
    exact hpackets ▸ h.nodup r hr
  · intro r' hr' pkt hpkt
    obtain ⟨r, hr, -, -, hpackets, -⟩ := hmem r' hr'
    exact h.lt r hr pkt (hpackets ▸ hpkt)
  · intro a packets hp
    obtain ⟨r, hr, haddr, hrest⟩ := h.phase a packets hp
    have hne : r.addr ≠ req := fun heq => hreq packets (by rw [hp, ← haddr, heq])
    obtain ⟨r', hr', -, -, heq⟩ := hkeep r hr
    exact ⟨r, heq hne ▸ hr', haddr, hrest⟩
  · intro r' hr' pkt hpkt horigin
    obtain ⟨r, hr, haddr, hip, hpackets, -⟩ := hmem r' hr'
    rw [haddr, hip]
    exact h.waiting r hr pkt (hpackets ▸ hpkt) horigin
  · intro t a ip pkt hlog horigin
    refine (h.released t a ip pkt hlog horigin).imp_left ?_
    rintro ⟨r, hr, haddr, hpkt⟩
    obtain ⟨r', hr', haddr', hpackets, -⟩ := hkeep r hr
    exact ⟨r', hr', haddr'.trans haddr, hpackets.symm ▸ hpkt⟩

theorem mem_linkPacket {r₀ : SrArpreq} (hone : ∀ r ∈ s.requests, r.addr = r₀.addr → r = r₀)
    {origin : Origin} {buf : Frame} {iface : Name} {new : SrPacket}
    (hnew : s.nextPacket origin buf iface = new) {r' : SrArpreq}
    (hr' : r' ∈ (s.linkPacket r₀.addr r₀.ip origin buf iface).requests) :
    ∃ r ∈ s.requests, r'.addr = r.addr ∧ r'.ip = r.ip ∧
      (r'.packets = r.packets ∨ r = r₀ ∧ r'.packets = new :: r.packets) := by
  rw [Store.requests_linkPacket, hnew] at hr'
  obtain ⟨r, hr, rfl⟩ := List.mem_map.mp hr'
  refine ⟨r, hr, ?_⟩
  split
  · next haddr => exact ⟨rfl, rfl, .inr ⟨hone r hr haddr, rfl⟩⟩
  · exact ⟨rfl, rfl, .inl rfl⟩

theorem exists_mem_linkPacket (r₀ : SrArpreq) {origin : Origin} {buf : Frame} {iface : Name}
    {new : SrPacket} (hnew : s.nextPacket origin buf iface = new) {r : SrArpreq}
    (hr : r ∈ s.requests) :
    ∃ r' ∈ (s.linkPacket r₀.addr r₀.ip origin buf iface).requests,
      r'.addr = r.addr ∧ r'.timesSent = r.timesSent ∧ r'.sent = r.sent ∧
        r.packets <:+ r'.packets ∧ (r = r₀ → r'.packets = new :: r.packets) := by
  rw [Store.requests_linkPacket, hnew]
  refine ⟨_, List.mem_map_of_mem hr, ?_⟩
  split
  · exact ⟨rfl, rfl, rfl, List.suffix_cons _ _, fun _ => rfl⟩
  · next haddr => exact ⟨rfl, rfl, rfl, List.suffix_rfl, fun heq => absurd (heq ▸ rfl) haddr⟩

theorem linkPacket (h : Conserved p s) {r₀ : SrArpreq} (hr₀ : r₀ ∈ s.requests)
    (hone : ∀ r ∈ s.requests, r.addr = r₀.addr → r = r₀) {origin : Origin}
    (hphase : p.Admits origin) (buf : Frame) (iface : Name) :
    Conserved p (s.linkPacket r₀.addr r₀.ip origin buf iface) := by
  obtain ⟨new, hnew, hnewAddr, hnewOrigin⟩ : ∃ new, s.nextPacket origin buf iface = new ∧
      new.addr = s.heap ∧ new.origin = origin := ⟨_, rfl, rfl, rfl⟩
  have hlog : (s.linkPacket r₀.addr r₀.ip origin buf iface).log =
      s.log ++ [(s.now, .queued r₀.addr r₀.ip new)] := by rw [Store.log_linkPacket, hnew]
  have hfresh {pkt : SrPacket} (hpkt : pkt.addr < s.heap) : pkt ≠ new := by
    rintro rfl
    exact absurd hnewAddr (Nat.ne_of_lt hpkt)
  have hother {pkt : SrPacket} (hne : pkt ≠ new) :
      ¬(Event.queued r₀.addr r₀.ip new).About pkt := hne.symm
  have hfate : fate new (s.linkPacket r₀.addr r₀.ip origin buf iface).log =
      [(s.now, .queued r₀.addr r₀.ip new)] := by
    -- the record is new, so the history cannot know it
    have hbefore : fate new s.log = [] := fate_eq_nil fun e he habout =>
      absurd hnewAddr (Nat.ne_of_lt (h.old e he new habout))
    rw [hlog, fate_append, hbefore, List.nil_append]
    simp [fate, Event.About]
  refine ⟨?_, ?_, ?_, ?_, ?_, ?_⟩
  · intro r' hr'
    obtain ⟨r, hr, -, -, hpackets | ⟨-, hpackets⟩⟩ := mem_linkPacket hone hnew hr'
    · exact hpackets ▸ h.nodup r hr
    · rw [hpackets]
      exact List.nodup_cons.mpr ⟨fun hin => hfresh (h.lt r hr new hin) rfl, h.nodup r hr⟩
  · intro r' hr' pkt hpkt
    obtain ⟨r, hr, -, -, hpackets | ⟨-, hpackets⟩⟩ := mem_linkPacket hone hnew hr'
    · exact Nat.lt_succ_of_lt (h.lt r hr pkt (hpackets ▸ hpkt))
    · rw [hpackets] at hpkt
      obtain rfl | hpkt := List.mem_cons.mp hpkt
      · exact hnewAddr ▸ Nat.lt_succ_self s.heap
      · exact Nat.lt_succ_of_lt (h.lt r hr pkt hpkt)
  · intro e he pkt habout
    rw [hlog] at he
    obtain he | he := List.mem_append.mp he
    · exact Nat.lt_succ_of_lt (h.old e he pkt habout)
    · rw [List.mem_singleton.mp he] at habout
      obtain rfl : new = pkt := habout
      exact hnewAddr ▸ Nat.lt_succ_self s.heap
  · intro req packets hp
    obtain ⟨r, hr, haddr, hmany, hdue, hsuffix⟩ := h.phase req packets hp
    obtain ⟨r', hr', haddr', htimes, hsent, hpackets, -⟩ := exists_mem_linkPacket r₀ hnew hr
    refine ⟨r', hr', haddr'.trans haddr, htimes ▸ hmany, ?_, hsuffix.trans hpackets⟩
    rw [SrArpreq.Due, hsent]
    exact hdue
  · intro r' hr' pkt hpkt horigin
    obtain ⟨r, hr, haddr, hip, hpackets⟩ := mem_linkPacket hone hnew hr'
    rw [haddr, hip]
    by_cases heq : pkt = new
    · -- a received packet is not queued while a request is given up
      subst heq
      have hidle : p = .idle := by
        cases p with
        | idle => rfl
        | reporting => exact absurd (horigin.symm.trans (hnewOrigin.trans hphase)) (by decide)
      obtain hpackets | ⟨rfl, -⟩ := hpackets
      · exact absurd rfl (hfresh (h.lt r hr pkt (hpackets ▸ hpkt)))
      · refine ⟨s.now, fun _ => hfate, fun hbehind => ?_⟩
        rw [hidle] at hbehind
        exact absurd hbehind id
    · have hpkt' : pkt ∈ r.packets := by
        obtain hpackets | ⟨-, hpackets⟩ := hpackets
        · exact hpackets ▸ hpkt
        · rw [hpackets] at hpkt
          exact (List.mem_cons.mp hpkt).resolve_left heq
      rw [hlog, fate_concat (hother heq)]
      exact h.waiting r hr pkt hpkt' horigin
  · intro t req ip pkt hin horigin
    rw [hlog] at hin
    obtain hin | hin := List.mem_append.mp hin
    · obtain ⟨r, hr, haddr, hpkt⟩ | hrel := h.released t req ip pkt hin horigin
      · obtain ⟨r', hr', haddr', -, -, hpackets, -⟩ := exists_mem_linkPacket r₀ hnew hr
        exact .inl ⟨r', hr', haddr'.trans haddr, hpackets.subset hpkt⟩
      · rw [hlog]
        exact .inr (hrel.concat (hother (hfresh (h.old _ hin pkt rfl))) _)
    · obtain ⟨-, heq⟩ := Prod.mk.inj (List.mem_singleton.mp hin)
      obtain ⟨rfl, -, rfl⟩ := Event.queued.inj heq
      obtain ⟨r', hr', haddr', -, -, -, hpackets⟩ := exists_mem_linkPacket r₀ hnew hr₀
      exact .inl ⟨r', hr', haddr', hpackets rfl ▸ List.mem_cons_self⟩

theorem congr {s' : Store} (h : Conserved .idle s) (hreq : s'.requests = s.requests)
    (hheap : s'.heap = s.heap) (hlog : s'.log = s.log) : Conserved .idle s' where
  nodup := by
    rw [hreq]
    exact h.nodup
  lt := by
    rw [hreq, hheap]
    exact h.lt
  old := by
    rw [hlog, hheap]
    exact h.old
  phase _ _ hphase := by cases hphase
  waiting := by
    rw [hreq, hlog]
    intro r hr pkt hpkt horigin
    obtain ⟨t, hfate, -⟩ := h.waiting r hr pkt hpkt horigin
    exact ⟨t, hfate, fun hbehind => absurd hbehind id⟩
  released := by
    rw [hreq, hlog]
    exact h.released

theorem noted_none (h : Conserved p s) (sr : Config) (packet : Frame) (type code : UInt8) :
    Conserved p (s.noted sr none packet type code) := by
  have herror := h.trace (e := .icmpError none type code packet) fun _ habout => habout
  exact s.noted_cases sr none packet type code herror
    fun _ => herror.trace fun _ habout => habout

/-- A received packet on the queue is on one request, and was not released. -/
theorem waiting_unique (h : Conserved p s) (hwf : s.WF) {r r' : SrArpreq}
    (hr : r ∈ s.requests) (hr' : r' ∈ s.requests) {pkt : SrPacket} (hpkt : pkt ∈ r.packets)
    (hpkt' : pkt ∈ r'.packets) (horigin : pkt.origin = .received) : r = r' := by
  obtain ⟨t, hnot, hbehind⟩ := h.waiting r hr pkt hpkt horigin
  obtain ⟨t', hnot', hbehind'⟩ := h.waiting r' hr' pkt hpkt' horigin
  have hhead {req : Addr} {ip : UInt32} {t : Int} (b : Prop) (rest : List (Int × Event))
      (h₁ : ¬b → fate pkt s.log = [(t, .queued req ip pkt)])
      (h₂ : b → fate pkt s.log = (t, .queued req ip pkt) :: rest) :
      (fate pkt s.log).head? = some (t, .queued req ip pkt) := by
    by_cases hb : b
    · rw [h₂ hb]
      rfl
    · rw [h₁ hb]
      rfl
  have heq := (hhead _ _ hnot hbehind).symm.trans (hhead _ _ hnot' hbehind')
  simp only [Option.some.injEq, Prod.mk.injEq, Event.queued.injEq] at heq
  exact hwf.eq_of_addr hr hr' heq.2.1

theorem not_released (h : Conserved p s) {r : SrArpreq} (hr : r ∈ s.requests)
    {pkt : SrPacket} (hpkt : pkt ∈ r.packets) (horigin : pkt.origin = .received)
    (hbehind : ¬p.Behind r.addr pkt) (t : Int) (req : Addr) (ip : UInt32) :
    ¬Released s.log t req ip pkt := by
  obtain ⟨t', hfate, -⟩ := h.waiting r hr pkt hpkt horigin
  intro hrel
  cases hrel with
  | sent _ _ _ _ _ _ hfate' => simp [hfate hbehind] at hfate'
  | reported _ _ _ _ _ _ hfate' => simp [hfate hbehind] at hfate'

/-! ### A request is given up -/

theorem givenUp (h : Conserved .idle s) {r : SrArpreq} (hr : r ∈ s.requests)
    (hdue : r.Due s.now) (hmany : 5 ≤ r.timesSent) (hwf : s.WF) :
    Conserved (.reporting r.addr r.packets) s where
  nodup := h.nodup
  lt := h.lt
  old := h.old
  phase := by
    rintro _ _ ⟨⟩
    exact ⟨r, hr, rfl, hmany, hdue, List.suffix_rfl⟩
  waiting := by
    intro r' hr' pkt hpkt horigin
    obtain ⟨t, hfate, -⟩ := h.waiting r' hr' pkt hpkt horigin
    refine ⟨t, fun _ => hfate id, ?_⟩
    rintro ⟨haddr, hnot⟩
    obtain rfl := hwf.eq_of_addr hr hr' haddr
    exact absurd hpkt hnot
  released := h.released

theorem report {req : Addr} {pkt : SrPacket} {packets : List SrPacket}
    (h : Conserved (.reporting req (pkt :: packets)) s) (hwf : s.WF) (type code : UInt8)
    (htype : type = 3) (hcode : code = 1) :
    Conserved (.reporting req packets)
      (s.trace (.icmpError (some pkt) type code pkt.buf)) := by
  subst htype hcode
  obtain ⟨r₀, hr₀, haddr₀, hmany, hdue, hsuffix⟩ := h.phase req _ rfl
  have hpkt₀ : pkt ∈ r₀.packets := hsuffix.subset List.mem_cons_self
  have hnotin : pkt ∉ packets :=
    (List.nodup_cons.mp (hsuffix.sublist.nodup (h.nodup r₀ hr₀))).1
  have hother {q : SrPacket} (hne : q ≠ pkt) :
      ¬(Event.icmpError (some pkt) 3 1 pkt.buf).About q := hne.symm
  refine ⟨h.nodup, h.lt, ?_, ?_, ?_, ?_⟩
  · intro e he q habout
    obtain he | he := List.mem_append.mp he
    · exact h.old e he q habout
    · rw [List.mem_singleton.mp he] at habout
      obtain rfl : pkt = q := habout
      exact h.lt r₀ hr₀ pkt hpkt₀
  · rintro _ _ ⟨⟩
    exact ⟨r₀, hr₀, haddr₀, hmany, hdue, (List.suffix_cons pkt packets).trans hsuffix⟩
  · intro r hr q hq horigin
    obtain ⟨t, hfate, hbehind⟩ := h.waiting r hr q hq horigin
    refine ⟨t, ?_⟩
    by_cases heq : q = pkt
    · subst heq
      -- it is on the failing request and on no other
      obtain rfl := h.waiting_unique hwf hr₀ hr hpkt₀ hq horigin
      refine ⟨fun hnot => absurd ⟨haddr₀.symm, hnotin⟩ hnot, fun _ => ?_⟩
      have hbefore := hfate fun hb => hb.2 List.mem_cons_self
      rw [Store.log_trace, fate_append, hbefore]
      simp [fate, Event.About]
    · have hiff : Phase.Behind (.reporting req packets) r.addr q ↔
          Phase.Behind (.reporting req (pkt :: packets)) r.addr q := by
        simp [Phase.Behind, heq]
      rw [Store.log_trace, fate_concat (hother heq), hiff]
      exact ⟨hfate, hbehind⟩
  · intro t a ip q hin horigin
    obtain hin | hin := List.mem_append.mp hin
    · refine (h.released t a ip q hin horigin).imp_right fun hrel => hrel.concat (hother ?_) _
      rintro rfl
      exact h.not_released hr₀ hpkt₀ horigin (fun hb => hb.2 List.mem_cons_self) _ _ _ hrel
    · cases (Prod.mk.inj (List.mem_singleton.mp hin)).2

theorem noted_some {req : Addr} {pkt : SrPacket} {packets : List SrPacket}
    (h : Conserved (.reporting req (pkt :: packets)) s) (hwf : s.WF) (sr : Config) :
    Conserved (.reporting req packets) (s.noted sr (some pkt) pkt.buf 3 1) := by
  have hreport := h.report hwf 3 1 rfl rfl
  exact s.noted_cases sr (some pkt) pkt.buf 3 1 hreport
    fun _ => hreport.trace fun _ habout => habout

/-- The failing request is destroyed, and its packets with it: those that were
received have all been reported. -/
theorem destroyed {req : Addr} (h : Conserved (.reporting req []) s) (hwf : s.WF)
    (hfew : ∀ r ∈ s.requests, r.timesSent ≤ 5) : Conserved .idle (srArpreqDestroy s req) := by
  obtain ⟨r₀, hr₀, rfl, hmany, hdue, -⟩ := h.phase req [] rfl
  have hlog : (srArpreqDestroy s r₀.addr).log = s.log ++ [(s.now, .destroyed r₀)] := by
    rw [srArpreqDestroy, hwf.deref_eq hr₀]
    rfl
  have hother (pkt : SrPacket) : ¬(Event.destroyed r₀).About pkt := id
  have hsame (pkt : SrPacket) :
      fate pkt (srArpreqDestroy s r₀.addr).log = fate pkt s.log := by
    rw [hlog, fate_concat (hother pkt)]
  refine ⟨?_, ?_, ?_, (fun _ _ hphase => by cases hphase), ?_, ?_⟩
  · intro r hr
    exact h.nodup r ((mem_srArpreqDestroy hwf).mp hr).1
  · intro r hr pkt hpkt
    rw [Store.heap_srArpreqDestroy]
    exact h.lt r ((mem_srArpreqDestroy hwf).mp hr).1 pkt hpkt
  · intro e he pkt habout
    rw [Store.heap_srArpreqDestroy]
    rw [hlog] at he
    obtain he | he := List.mem_append.mp he
    · exact h.old e he pkt habout
    · rw [List.mem_singleton.mp he] at habout
      exact absurd habout id
  · intro r hr pkt hpkt horigin
    obtain ⟨hr, hne⟩ := (mem_srArpreqDestroy hwf).mp hr
    obtain ⟨t, hfate, -⟩ := h.waiting r hr pkt hpkt horigin
    rw [hsame]
    exact ⟨t, fun _ => hfate fun hb => hne hb.1.symm, fun hb => absurd hb id⟩
  · intro t req ip pkt hin horigin
    rw [hlog] at hin
    have hold : (t, Event.queued req ip pkt) ∈ s.log := by
      obtain hin | hin := List.mem_append.mp hin
      · exact hin
      · cases (Prod.mk.inj (List.mem_singleton.mp hin)).2
    obtain ⟨r, hr, haddr, hpkt⟩ | hrel := h.released t req ip pkt hold horigin
    · by_cases hreq : r.addr = r₀.addr
      · -- everything on the failing request has been reported
        obtain rfl := hwf.eq_of_addr hr hr₀ hreq
        obtain ⟨t', -, hfate⟩ := h.waiting r hr pkt hpkt horigin
        have hreported := hfate ⟨rfl, List.not_mem_nil⟩
        have hqueued := queued_mem_fate hold
        simp only [hreported, List.mem_cons, Prod.mk.injEq, Event.queued.injEq, reduceCtorEq,
          and_false, List.not_mem_nil, or_false] at hqueued
        obtain ⟨rfl, -, rfl, -⟩ := hqueued
        have hfive : r.timesSent = 5 := Nat.le_antisymm (hfew r hr) hmany
        refine .inr (.reported (r := r) (by simp [hlog]) haddr rfl hpkt hfive hdue ?_)
        rw [hsame, hreported, haddr]
      · exact .inl ⟨r, (mem_srArpreqDestroy hwf).mpr ⟨hr, hreq⟩, haddr, hpkt⟩
    · rw [hlog]
      exact .inr (hrel.concat (hother pkt) _)

end Conserved

/-! ### A mapping arrives -/

theorem about_flushEvents {sr : Config} {ip : UInt32} {mac : Mac} {packets : List SrPacket}
    {pkt : SrPacket} {e : Event} (he : e ∈ flushEvents sr ip mac packets)
    (habout : e.About pkt) : pkt ∈ packets := by
  obtain ⟨q, hq, hmap⟩ := List.mem_filterMap.mp he
  obtain ⟨outIface, -, rfl⟩ := Option.map_eq_some_iff.mp hmap
  obtain rfl : q = pkt := habout
  exact hq

theorem fate_flushEvents {sr : Config} (ip : UInt32) (mac : Mac) (now : Int)
    {packets : List SrPacket} (hnodup : packets.Nodup)
    (hsend : ∀ pkt ∈ packets, Sendable sr pkt) {pkt : SrPacket} (hpkt : pkt ∈ packets) :
    ∃ frame, etherDhost frame = mac ∧ SameBody frame pkt.buf ∧
      fate pkt ((flushEvents sr ip mac packets).map fun e => (now, e)) =
        [(now, .sendPacket (.flush pkt ip mac) pkt.iface frame 0)] := by
  induction packets with
  | nil => exact absurd hpkt List.not_mem_nil
  | cons q packets ih =>
      obtain ⟨hnotin, hnodup⟩ := List.nodup_cons.mp hnodup
      obtain ⟨hq, hsend⟩ := List.forall_mem_cons.mp hsend
      obtain ⟨frame, hframe, hcons⟩ := flushEvents_cons hq ip mac packets
      rw [hcons, List.map_cons]
      by_cases heq : q = pkt
      · subst heq
        refine ⟨frame, hframe.dhost, hframe.body, ?_⟩
        have hrest : fate q ((flushEvents sr ip mac packets).map fun e => (now, e)) = [] := by
          refine fate_eq_nil fun e he habout => hnotin ?_
          obtain ⟨event, hevent, rfl⟩ := List.mem_map.mp he
          exact about_flushEvents hevent habout
        rw [← List.singleton_append, fate_append, hrest]
        simp [fate, Event.About]
      · obtain ⟨frame', hdhost, hbody, hfate⟩ := ih hnodup hsend
          ((List.mem_cons.mp hpkt).resolve_left (Ne.symm heq))
        refine ⟨frame', hdhost, hbody, ?_⟩
        rw [← List.singleton_append, fate_append, hfate]
        simp [fate, Event.About, heq]

theorem Conserved.mapped_of_none {s : Store} (h : Conserved .idle s) (sr : Config) (mac : Mac)
    {ip : UInt32} (hfind : s.requests.find? (fun r => r.ip == ip) = none) :
    Conserved .idle (s.mapped sr mac ip) :=
  (h.trace (e := .learned mac ip none) fun _ habout => habout).congr
    (Store.requests_mapped_of_none sr mac hfind) rfl (Store.log_mapped_of_none sr mac hfind)

theorem Conserved.exists_log_mapped {s : Store} {sr : Config} (h : Conserved .idle s)
    (hs : Healthy sr s) (mac : Mac) {r₀ : SrArpreq}
    (hfind : s.requests.find? (fun r => r.ip == r₀.ip) = some r₀) :
    ∃ new, (s.mapped sr mac r₀.ip).log = s.log ++ new ∧
      (s.now, .learned mac r₀.ip (some r₀)) ∈ new ∧
      (∀ e ∈ new, ∀ pkt, e.2.About pkt → pkt ∈ r₀.packets) ∧
      ∀ pkt ∈ r₀.packets, ∃ frame, etherDhost frame = mac ∧ SameBody frame pkt.buf ∧
        fate pkt new = [(s.now, .sendPacket (.flush pkt r₀.ip mac) pkt.iface frame 0)] := by
  have hr₀ := List.mem_of_find?_eq_some hfind
  refine ⟨_, Store.log_mapped_of_some sr mac hfind, List.mem_cons_self, ?_, ?_⟩
  · refine List.forall_mem_cons.mpr ⟨fun _ habout => absurd habout id, fun e he pkt habout => ?_⟩
    obtain ⟨event, hevent, rfl⟩ := List.mem_map.mp he
    exact about_flushEvents hevent habout
  · intro pkt hpkt
    exact fate_flushEvents r₀.ip mac s.now (h.nodup r₀ hr₀) (hs.packets r₀ hr₀) hpkt

/-- The mapping for an IP releases the packets of its request. -/
theorem Conserved.mapped_of_some {s : Store} {sr : Config} (h : Conserved .idle s) (hwf : s.WF)
    (hs : Healthy sr s) (mac : Mac) {r₀ : SrArpreq}
    (hfind : s.requests.find? (fun r => r.ip == r₀.ip) = some r₀) :
    Conserved .idle (s.mapped sr mac r₀.ip) := by
  have hr₀ := List.mem_of_find?_eq_some hfind
  have hmem {r : SrArpreq} : r ∈ (s.mapped sr mac r₀.ip).requests ↔
      r ∈ s.requests ∧ r.ip ≠ r₀.ip := mem_eraseP_key hwf.ip_nodup
  obtain ⟨new, hlog, hlearned, hnew, hflush⟩ := h.exists_log_mapped hs mac hfind
  have hqueued {t : Int} {req : Addr} {ip : UInt32} {pkt : SrPacket} :
      (t, Event.queued req ip pkt) ∉ new := by
    intro hin
    obtain ⟨frame, -, -, hfate⟩ := hflush pkt (hnew _ hin pkt rfl)
    have hin' := queued_mem_fate hin
    simp [hfate] at hin'
  have hother {pkt : SrPacket} (hpkt : pkt ∉ r₀.packets) : ∀ e ∈ new, ¬e.2.About pkt :=
    fun e he habout => hpkt (hnew e he pkt habout)
  refine ⟨?_, ?_, ?_, (fun _ _ hphase => by cases hphase), ?_, ?_⟩
  · intro r hr
    exact h.nodup r (hmem.mp hr).1
  · intro r hr
    exact h.lt r (hmem.mp hr).1
  · intro e he pkt habout
    rw [hlog] at he
    obtain he | he := List.mem_append.mp he
    · exact h.old e he pkt habout
    · exact h.lt r₀ hr₀ pkt (hnew e he pkt habout)
  · intro r hr pkt hpkt horigin
    obtain ⟨hr, hip⟩ := hmem.mp hr
    obtain ⟨t, hfate, -⟩ := h.waiting r hr pkt hpkt horigin
    refine ⟨t, fun _ => ?_, fun hb => absurd hb id⟩
    have hnotin : pkt ∉ r₀.packets := fun hpkt₀ =>
      hip (congrArg SrArpreq.ip (h.waiting_unique hwf hr hr₀ hpkt hpkt₀ horigin))
    rw [hlog, fate_append, fate_eq_nil (hother hnotin), List.append_nil, hfate id]
  · intro t req ip pkt hin horigin
    rw [hlog] at hin
    have hold := (List.mem_append.mp hin).resolve_right hqueued
    obtain ⟨r, hr, haddr, hpkt⟩ | hrel := h.released t req ip pkt hold horigin
    · by_cases hip : r.ip = r₀.ip
      · obtain rfl := hwf.eq_of_ip hr hr₀ hip
        obtain ⟨t', hfate, -⟩ := h.waiting r hr pkt hpkt horigin
        have hin' := queued_mem_fate hold
        simp only [hfate id, List.mem_singleton, Prod.mk.injEq, Event.queued.injEq] at hin'
        obtain ⟨rfl, -, rfl, -⟩ := hin'
        obtain ⟨frame, hdhost, hbody, hsent⟩ := hflush pkt hpkt
        refine .inr (.sent (r := r) (by rw [hlog]; exact List.mem_append_right _ hlearned) haddr
          rfl hpkt hdhost hbody ?_)
        rw [hlog, fate_append, hfate id, hsent, haddr]
        rfl
      · exact .inl ⟨r, hmem.mpr ⟨hr, hip⟩, haddr, hpkt⟩
    · have hnotin : pkt ∉ r₀.packets := fun hpkt₀ =>
        h.not_released hr₀ hpkt₀ horigin id t req ip hrel
      rw [hlog]
      exact .inr (hrel.append (hother hnotin))

theorem Conserved.mapped {s : Store} {sr : Config} (h : Conserved .idle s) (hwf : s.WF)
    (hs : Healthy sr s) (mac : Mac) (ip : UInt32) : Conserved .idle (s.mapped sr mac ip) := by
  cases hfind : s.requests.find? fun r => r.ip == ip with
  | none => exact h.mapped_of_none sr mac hfind
  | some r₀ =>
      obtain rfl : r₀.ip = ip := by simpa using List.find?_some hfind
      exact h.mapped_of_some hwf hs mac hfind

/-! ### Runs -/

/-- **Every transition accounts for every packet.** -/
theorem Transition.conserved {sr : Config} {c c' : Phase × Store} (h : Transition sr c c')
    (hwf : c.2.WF) (hs : Healthy sr c.2) (hc : Conserved c.1 c.2) : Conserved c'.1 c'.2 := by
  cases h with
  | replied hreply =>
      refine hc.trace fun pkt habout => ?_
      cases hreply <;> exact habout
  | errored => exact hc.noted_none ..
  | reported => exact hc.noted_some hwf sr
  | sent => exact hc.trace fun _ habout => habout
  | linked _ hphase _ _ hr _ =>
      exact hc.linkPacket hr (fun q hq => hwf.eq_of_addr hq hr) hphase ..
  | linkedFirst _ _ _ _ hr hsent =>
      have := (hs.counters _ hr).1
      omega
  | @created p s origin packet outIface ip _ hphase _ _ _ =>
      have hnew := hc.newRequest ip
      have hone : ∀ r ∈ (s.newRequest ip).requests, r.addr = s.heap →
          r = { addr := s.heap, ip := ip, sent := 0, timesSent := 0, packets := [] } := by
        refine List.forall_mem_cons.mpr ⟨fun _ => rfl, fun r hr haddr => ?_⟩
        exact absurd haddr (Nat.ne_of_lt (hwf.addr_lt r hr))
      refine ((hnew.linkPacket List.mem_cons_self hone hphase
        (setEtherShost packet outIface.addr) outIface.name).asked sr ip outIface.name).retried
          s.now fun packets hp => ?_
      obtain ⟨r, hr, haddr, -⟩ := hc.phase _ _ hp
      exact absurd haddr (Nat.ne_of_lt (hwf.addr_lt r hr))
  | retried => exact (hc.asked ..).retried _ fun _ hphase => by cases hphase
  | givenUp hr hdue hmany => exact hc.givenUp hr hdue hmany hwf
  | destroyed => exact hc.destroyed hwf fun r hr => (hs.counters r hr).2
  | mapped mac ip => exact hc.mapped hwf hs mac ip
  | expired => exact hc.congr rfl rfl rfl

theorem Path.conserved {sr : Config} {c c' : Phase × Store} (h : Path sr c c') (hwf : c.2.WF)
    (hs : Healthy sr c.2) (hc : Conserved c.1 c.2) : Conserved c'.1 c'.2 :=
  (h.invariant (I := fun c => Healthy sr c.2 ∧ Conserved c.1 c.2)
    (fun _ _ hwf ht h => ⟨ht.healthy hwf h.1, ht.conserved hwf h.1 h.2⟩) hwf ⟨hs, hc⟩).1.2

theorem SrInstance.step_conserved {sr : SrInstance} (hwf : sr.store.WF)
    (hs : Healthy sr.config sr.store) (hc : Conserved .idle sr.store) (a : Action) :
    Conserved .idle (sr.step a).store := by
  cases a with
  | recv now packet interface =>
      exact (step_recv_path hwf now packet interface).conserved (hwf.setNow now)
        ⟨hs.counters, hs.packets⟩ (hc.congr rfl rfl rfl)
  | timer now =>
      exact (step_timer_path hwf now).conserved (hwf.setNow now) ⟨hs.counters, hs.packets⟩
        (hc.congr rfl rfl rfl)
  | hwinfo mem entries =>
      rw [step_hwinfo_store]
      exact hc

theorem SrInstance.run_conserved (config : Config) (now : Int) (actions : List Action) :
    Conserved .idle ((init config now).run actions).store := by
  have h := run_invariant
    (fun sr => (sr.store.WF ∧ Healthy sr.config sr.store) ∧ Conserved .idle sr.store)
    (init config now) actions
    (fun sr a _ h => ⟨⟨step_wf h.1.1 a, step_healthy h.1.1 h.1.2 a⟩,
      step_conserved h.1.1 h.1.2 h.2 a⟩)
    ⟨⟨wf_init now, fun _ h => absurd h List.not_mem_nil, fun _ h => absurd h List.not_mem_nil⟩,
      conserved_init now⟩
  exact h.2

/-- **Conservation of queued traffic.** In every run, a received packet that
was put on the request for an IP either is still on that request, and the
history says no more about it than that it was queued; or it is on no request
any more, and was released exactly once, in one of the two ways: sent when a
mapping for that IP arrived, or reported when that request had been sent five
times and expired. -/
theorem queued_packet_conserved (config : Config) (now : Int) (actions : List Action) :
    ∀ t req ip pkt,
      (t, Event.queued req ip pkt) ∈ ((SrInstance.init config now).run actions).store.log →
      pkt.origin = .received →
      ((∃ r ∈ ((SrInstance.init config now).run actions).requests,
          r.addr = req ∧ r.ip = ip ∧ pkt ∈ r.packets) ∧
        fate pkt ((SrInstance.init config now).run actions).store.log =
          [(t, .queued req ip pkt)]) ∨
      ((∀ r ∈ ((SrInstance.init config now).run actions).requests, pkt ∉ r.packets) ∧
        Released ((SrInstance.init config now).run actions).store.log t req ip pkt) := by
  have hc := SrInstance.run_conserved config now actions
  generalize (SrInstance.init config now).run actions = sr at hc ⊢
  intro t req ip pkt hin horigin
  obtain ⟨r, hr, rfl, hpkt⟩ | hrel := hc.released t req ip pkt hin horigin
  · obtain ⟨t', hfate, -⟩ := hc.waiting r hr pkt hpkt horigin
    have hmem := queued_mem_fate hin
    simp only [hfate id, List.mem_singleton, Prod.mk.injEq, Event.queued.injEq] at hmem
    obtain ⟨rfl, -, rfl, -⟩ := hmem
    exact .inl ⟨⟨r, hr, rfl, rfl, hpkt⟩, hfate id⟩
  · refine .inr ⟨fun r hr hpkt => ?_, hrel⟩
    exact hc.not_released hr hpkt horigin id t req ip hrel

/-- The packet between the two networks, as it waits for its next hop. -/
def waitingPacket : SrPacket :=
  { addr := 1, origin := .received, buf := setEtherShost (decrementTtl crossingFrame) eth1.addr
    iface := strncpy srIfaceNamelen eth1.name }

def hostAnswer : Frame :=
  [2, 0, 0, 0, 0, 1, 2, 0, 0, 0, 1, 50, 8, 6, 0, 1, 8, 0, 6, 4, 0, 2,
    2, 0, 0, 0, 1, 50, 10, 0, 1, 50, 2, 0, 0, 0, 0, 1, 10, 0, 1, 1]

/-- The packet waits through two passes, and the answer releases it. -/
theorem queued_packet_conserved_twoNetworks :
    let sr := (SrInstance.init twoNetworks 0).run [.recv 0 crossingFrame eth2.name, .timer 1,
      .timer 2, .recv 2 hostAnswer eth1.name]
    (∀ r ∈ sr.requests, waitingPacket ∉ r.packets) ∧
      Released sr.store.log 0 0 0x3201000a waitingPacket := by
  have hfate := queued_packet_conserved twoNetworks 0 [.recv 0 crossingFrame eth2.name, .timer 1,
    .timer 2, .recv 2 hostAnswer eth1.name] 0 0 0x3201000a waitingPacket (by decide +kernel) rfl
  refine hfate.resolve_left ?_
  rintro ⟨⟨r, hr, -⟩, -⟩
  exact List.eq_nil_iff_forall_not_mem.mp (by decide +kernel) r hr

end SrRouter
