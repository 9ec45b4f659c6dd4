import SrRouter.Transitions

/-!
Every program of the router is a path of transitions: routing, ICMP errors,
the handling of a received frame, and the body of the sweep for one request.
-/

namespace SrRouter

open ByteBuffer CString Interactive

/-! ### Routing -/

theorem routed_path {sr : Config} {p : Phase} {origin : Origin} {packet : Frame} (s : Store)
    (hready : Ready sr origin packet) (hphase : p.Admits origin) :
    Path sr (p, s) (p, s.routed sr origin packet) := by
  refine s.routed_cases sr origin packet ?_ ?_ ?_ ?_ ?_
  · exact fun _ => .refl
  · exact fun _ _ _ hhop hhit => .single (.sent hready hphase hhop hhit)
  · exact fun _ _ hr hhop hmiss hsent => .single (.linked hready hphase hhop hmiss hr hsent)
  · exact fun _ _ hr hhop hmiss hzero => .single (.linkedFirst hready hphase hhop hmiss hr hzero)
  · exact fun _ _ hhop hmiss hnew => .single (.created hready hphase hhop hmiss hnew)

theorem ready_errorReply {sr : Config} {packet : Frame} {type code : UInt8} {reply : Frame}
    (h : errorReply sr packet type code = some reply) : Ready sr .icmpError reply := by
  obtain ⟨outIface, -, hiface, rfl⟩ := exists_of_errorReply h
  have hframe := icmpErrorFrame_ok outIface packet type code
  refine ⟨hframe.valid, hframe.ethertype, fun _ => hframe.sumOk, fun _ => ?_⟩
  rw [hframe.src]
  exact srIsRouterIp_of_mem (mem_of_srFindIcmpSourceIface hiface)

/-- Behind the transition that notes an ICMP error, its message is routed. -/
theorem errored_path {sr : Config} {p q : Phase} {s : Store} {pkt : Option SrPacket}
    {packet : Frame} {type code : UInt8}
    (hnote : Transition sr (p, s) (q, s.noted sr pkt packet type code)) :
    Path sr (p, s) (q, s.errored sr pkt packet type code) := by
  refine Relation.ReflTransGen.head hnote ?_
  unfold Store.errored
  cases hreply : errorReply sr packet type code with
  | none => exact .refl
  | some reply =>
      refine routed_path _ (ready_errorReply hreply) ?_
      cases q with
      | idle => trivial
      | reporting => rfl

/-! ### Received frames -/

theorem ethertype_decrementTtl (f : Frame) : ethertype (decrementTtl f) = ethertype f := by
  rw [ethertype, ethertype, load16, load16, load8_decrementTtl (by omega) (by omega) (by omega),
    load8_decrementTtl (by omega) (by omega) (by omega)]

theorem srHandleIp_path {sr : Config} {packet : Frame} (interface : Name) {s : Store}
    (hwf : s.WF) (htype : ethertype packet = ethertypeIp) :
    Path sr (.idle, s) (.idle, ((srHandleIp sr packet interface).run exec s).2) := by
  unfold srHandleIp
  simp only [validIpPacketInPlace_eq, icmpSumInPlace_eq]
  cases hvalid : srValidIpPacket packet with
  | false => exact .refl
  | true =>
      simp only [Bool.not_true, Bool.false_eq_true, if_false]
      by_cases hdst : srIsRouterIp sr.ifList (ipDst packet) = true
      · simp only [hdst, if_true]
        split
        · next hicmp =>
            split
            · unfold srSendIcmpEchoReply
              cases hget : srGetInterface sr.ifList interface with
              | none => exact .refl
              | some outIface =>
                  exact .single (.replied (.echo hget hvalid htype hicmp.2))
            · exact .refl
        · split
          · next hproto =>
              rw [run_srSendIcmpError sr none packet 3 3 hwf.allocated]
              exact errored_path (.errored (.portUnreachable hvalid hdst hproto))
          · exact .refl
      · rw [Bool.not_eq_true] at hdst
        simp only [hdst, Bool.false_eq_true, if_false]
        split
        · next httl =>
            rw [run_srSendIcmpError sr none packet 11 0 hwf.allocated]
            exact errored_path (.errored (.timeExceeded hvalid hdst httl))
        · have hok := headerOk_of_valid hvalid
          have hvalid' := decrementTtl_valid hok
          unfold srForwardIpPacket
          split
          · next hroute =>
              rw [run_srSendIcmpError sr none _ 3 0 hwf.allocated]
              refine errored_path (.errored (.noRoute hvalid' ?_ ?_))
              · rw [ipDst_decrementTtl, hdst]
              · simpa using hroute
          · rw [run_srSendRoutedIpPacket sr .received _ hwf.allocated]
            exact routed_path s ⟨hvalid', (ethertype_decrementTtl packet).trans htype,
              nofun, nofun⟩ trivial

theorem srHandleArp_path {sr : Config} (packet : Frame) (interface : Name) {s : Store}
    (hwf : s.WF) :
    Path sr (.idle, s) (.idle, ((srHandleArp sr packet interface).run exec s).2) := by
  unfold srHandleArp
  split
  · exact .refl
  · cases hget : srGetInterface sr.ifList interface with
    | none => exact .refl
    | some recvIface =>
        simp only
        split
        · exact .refl
        · split
          · simp only [Prog.bind_def, Prog.run_bind, run_srCacheArpMapping sr packet hwf]
            refine Relation.ReflTransGen.head (.mapped (arSha packet) (arSip packet)) ?_
            split
            · unfold srSendArpReply
              rw [hget]
              exact .single (.replied (.arp hget))
            · exact .refl
          · split
            · split
              · exact .refl
              · rw [run_srCacheArpMapping sr packet hwf]
                exact .single (.mapped _ _)
            · exact .refl

theorem srHandlepacket_path {sr : Config} (packet : Frame) (interface : Name) {s : Store}
    (hwf : s.WF) :
    Path sr (.idle, s) (.idle, ((srHandlepacket sr packet interface).run exec s).2) := by
  unfold srHandlepacket
  split
  · exact .refl
  · split
    · exact srHandleArp_path packet interface hwf
    · split
      · next htype => exact srHandleIp_path interface hwf htype
      · exact .refl

/-! ### The sweep, for one request -/

theorem reportPackets_path (sr : Config) (req : Addr) (packets : List SrPacket) {s : Store}
    (hwf : s.WF) : Path sr (.reporting req packets, s)
      (.reporting req [], ((reportPackets sr packets).run exec s).2) := by
  induction packets generalizing s with
  | nil => exact .refl
  | cons pkt packets ih =>
      have hfirst : Path sr (.reporting req (pkt :: packets), s)
          (.reporting req packets, s.errored sr (some pkt) pkt.buf 3 1) := errored_path .reported
      simp only [reportPackets, Prog.bind_def, Prog.run_bind,
        run_srSendIcmpError _ _ _ _ _ hwf.allocated]
      exact hfirst.trans (ih (hfirst.wf hwf))

theorem handleArpreq_path (sr : Config) {s : Store} (hwf : s.WF) {r : SrArpreq}
    (hr : r ∈ s.requests) :
    Path sr (.idle, s) (.idle, ((handleArpreq sr s.now r.addr).run exec s).2) := by
  unfold handleArpreq
  simp only [Prog.bind_def, Prog.run_bind, Prog.run_perform, exec, hwf.deref_eq hr,
    Option.getD_some]
  split
  · next hdue =>
      split
      · next hmany =>
          simp only [Prog.run_bind, Prog.run_perform, exec]
          refine Relation.ReflTransGen.head (.givenUp hr hdue hmany) ?_
          exact (reportPackets_path sr r.addr r.packets hwf).tail .destroyed
      · next hfew =>
          cases hpkts : r.packets with
          | nil => exact absurd hpkts (hwf.packets_ne r hr)
          | cons pkt packets =>
              have hstep : Transition sr (.idle, s)
                  (.idle, (s.asked sr r.ip pkt.iface).retried r.addr s.now) :=
                .retried hr hdue (by omega) hpkts
              rw [← run_retryArpreq] at hstep
              exact .single hstep
  · exact .refl

end SrRouter
