import SrRouter.Lib.TextInput
import SrRouter.Interfaces
import Mathlib.Data.List.Forall2

/-!
The routing table file (`sr_load_rt` and `sr_add_rt_entry`, in `sr_rt.c`).

The loop scans each line into four buffers that live as long as the call.
How many fields a line holds is not looked at: a line with fewer than four
leaves the buffers behind those as the line before left them, and a route is
added all the same. The table is cleared by the first line that is accepted,
so a file without any lines leaves the old one.

What `inet_aton` accepts is a parameter throughout.
-/

namespace SrRouter

open ByteBuffer CString TextInput

/-! ### Lines and fields -/

/-- `BUFSIZ` of the C library. -/
def bufsiz : Nat := 8192

def fieldSize : Nat := 32

def newline : UInt8 := 10

/-- `isspace`: a blank, or one of `\t`, `\n`, `\v`, `\f` and `\r`. -/
def isspace (c : UInt8) : Bool := c == 32 || (9 ≤ c && c ≤ 13)

def cString (buf : Bytes) : CStr := buf.takeWhile fun c => c ≠ 0

structure Fields where
  dest : CStr
  gw : CStr
  mask : CStr
  iface : CStr
  deriving DecidableEq

/-- `sscanf(line,"%s %s %s %s",dest,gw,mask,iface)`: one buffer after the
other as far as there are words, and the rest is left alone. `none` is a word
that does not fit. -/
def scanFields (line : Bytes) (fields : Fields) : Option Fields :=
  let found := scanWords isspace 4 (cString line)
  if found.all fun word => word.length < fieldSize then
    some { dest := found.getD 0 fields.dest, gw := found.getD 1 fields.gw,
           mask := found.getD 2 fields.mask, iface := found.getD 3 fields.iface }
  else none

/-! ### The table -/

/-- `sr_add_rt_entry`: walk to the end of the list. -/
def srAddRtEntry (dest gw mask : UInt32) (ifName : CStr) : List SrRt → List SrRt
  | [] => [{ dest := dest, gw := gw, mask := mask, interface := strncpy srIfaceNamelen ifName }]
  | rt :: routingTable => rt :: srAddRtEntry dest gw mask ifName routingTable

/-- The variables of the loop of `sr_load_rt`. -/
structure Loading where
  fields : Fields
  clearRoutingTable : Bool
  routingTable : List SrRt

/-- The loop of `sr_load_rt` over what `fgets` reads: the value returned, and
the table that is left. -/
def loadLoop (inetAton : CStr → Option UInt32) : List Bytes → Loading → Option (Int × List SrRt)
  | [], s => some (0, s.routingTable)
  | line :: rest, s =>
    match scanFields line s.fields with
    | none => none
    | some fields =>
      match inetAton fields.dest, inetAton fields.gw, inetAton fields.mask with
      | some dest, some gw, some mask =>
        let routingTable := if s.clearRoutingTable then s.routingTable else []
        loadLoop inetAton rest
          { fields := fields, clearRoutingTable := true,
            routingTable := srAddRtEntry dest gw mask fields.iface routingTable }
      | _, _, _ => some (-1, s.routingTable)

/-- `sr_load_rt` on the contents of the file, if it can be read; `junk` is what
the buffers hold at first. -/
def srLoadRt (inetAton : CStr → Option UInt32) (junk : Fields) (file : Option Bytes)
    (routingTable : List SrRt) : Option (Int × List SrRt) :=
  match file with
  | none => some (-1, routingTable)
  | some content => loadLoop inetAton (reads newline (bufsiz - 1) content)
      { fields := junk, clearRoutingTable := false, routingTable := routingTable }

theorem srAddRtEntry_eq_append (dest gw mask : UInt32) (ifName : CStr)
    (routingTable : List SrRt) : srAddRtEntry dest gw mask ifName routingTable = routingTable ++
      [{ dest := dest, gw := gw, mask := mask, interface := strncpy srIfaceNamelen ifName }] := by
  induction routingTable with
  | nil => rfl
  | cons rt routingTable ih => rw [srAddRtEntry, ih, List.cons_append]

/-! ### What a line says -/

def lineFields (line : Bytes) : List CStr := words isspace (cString line)

/-- The line holds four fields, and perhaps something behind them. -/
def HoldsFour (line : Bytes) : Prop := 4 ≤ (lineFields line).length

instance : DecidablePred HoldsFour := fun line =>
  inferInstanceAs (Decidable (4 ≤ (lineFields line).length))

structure Fields.Describe (inetAton : CStr → Option UInt32) (fields : Fields) (rt : SrRt) :
    Prop where
  dest : inetAton fields.dest = some rt.dest
  gw : inetAton fields.gw = some rt.gw
  mask : inetAton fields.mask = some rt.mask
  interface : rt.interface = strncpy srIfaceNamelen fields.iface

/-- The route that the line describes, on its own. -/
def LineRoute (inetAton : CStr → Option UInt32) (line : Bytes) (rt : SrRt) : Prop :=
  ∃ fields : Fields, [fields.dest, fields.gw, fields.mask, fields.iface] <+: lineFields line ∧
    fields.Describe inetAton rt

theorem exists_four_of_le_length {α : Type} {l : List α} (h : 4 ≤ l.length) :
    ∃ a b c d rest, l = a :: b :: c :: d :: rest := by
  refine ⟨l[0], l[1], l[2], l[3], l.drop 4, ?_⟩
  simp only [← List.drop_eq_getElem_cons, List.drop_zero]

/-- A line that holds four fields leaves nothing of the line before. -/
theorem scanFields_of_holdsFour {line : Bytes} (h : HoldsFour line) :
    ∃ found : Fields, [found.dest, found.gw, found.mask, found.iface] <+: lineFields line ∧
      ∀ fields, scanFields line fields =
        if [found.dest, found.gw, found.mask, found.iface].all fun word => word.length < fieldSize
        then some found else none := by
  unfold HoldsFour at h
  unfold scanFields
  rw [scanWords_eq_take]
  unfold lineFields at h ⊢
  obtain ⟨dest, gw, mask, iface, rest, heq⟩ := exists_four_of_le_length h
  rw [heq]
  exact ⟨⟨dest, gw, mask, iface⟩, ⟨rest, rfl⟩, fun fields => rfl⟩

/-- The routes that the next one is put behind. -/
def Loading.kept (s : Loading) : List SrRt := if s.clearRoutingTable then s.routingTable else []

/-- The variables after a line that gave these fields and this route. -/
def Loading.added (s : Loading) (fields : Fields) (rt : SrRt) : Loading :=
  { fields := fields, clearRoutingTable := true, routingTable := s.kept ++ [rt] }

variable {inetAton : CStr → Option UInt32}

/-- **One turn of the loop**, when the load succeeds in the end. -/
theorem loadLoop_cons {line : Bytes} {rest : List Bytes} {s : Loading} {table : List SrRt} :
    loadLoop inetAton (line :: rest) s = some (0, table) ↔
      ∃ fields rt, scanFields line s.fields = some fields ∧ fields.Describe inetAton rt ∧
        loadLoop inetAton rest (s.added fields rt) = some (0, table) := by
  rw [loadLoop]
  cases hscan : scanFields line s.fields with
  | none => simp
  | some fields =>
      simp only [srAddRtEntry_eq_append]
      constructor
      · intro h
        split at h
        · next dest gw mask hdest hgw hmask =>
            exact ⟨fields, ⟨dest, gw, mask, _⟩, rfl, ⟨hdest, hgw, hmask, rfl⟩, h⟩
        · simp at h
      · rintro ⟨found, rt, heq, hdescribe, h⟩
        obtain rfl := Option.some.inj heq
        simp only [hdescribe.dest, hdescribe.gw, hdescribe.mask]
        rw [← hdescribe.interface]
        exact h

/-- **The loop.** Every line that is read adds a route behind those before it,
and it is the route of that line if all lines hold four fields. -/
theorem loadLoop_spec {ls : List Bytes} {s : Loading} {table : List SrRt}
    (h : loadLoop inetAton ls s = some (0, table)) :
    ∃ routes : List SrRt, routes.length = ls.length ∧
      table = (if ls.isEmpty then s.routingTable else s.kept ++ routes) ∧
      ((∀ line ∈ ls, HoldsFour line) → List.Forall₂ (LineRoute inetAton) ls routes) := by
  induction ls generalizing s with
  | nil =>
      obtain ⟨-, rfl⟩ := Prod.mk.inj (Option.some.inj h)
      exact ⟨[], rfl, rfl, fun _ => .nil⟩
  | cons line ls ih =>
      obtain ⟨fields, rt, hscan, hdescribe, hrest⟩ := loadLoop_cons.mp h
      obtain ⟨routes, hlen, rfl, hroutes⟩ := ih hrest
      refine ⟨rt :: routes, by rw [List.length_cons, List.length_cons, hlen], ?_, fun hfour => ?_⟩
      · cases ls with
        | nil =>
            obtain rfl := List.eq_nil_of_length_eq_zero hlen
            rfl
        | cons line' ls => exact List.append_assoc s.kept [rt] routes
      · obtain ⟨hline, hfour⟩ := List.forall_mem_cons.mp hfour
        obtain ⟨found, hfound, hscans⟩ := scanFields_of_holdsFour hline
        rw [hscans] at hscan
        split at hscan
        · obtain rfl := Option.some.inj hscan
          exact .cons ⟨found, hfound, hdescribe⟩ (hroutes hfour)
        · cases hscan

/-- A line of exactly four fields that fit, with addresses that are accepted. -/
structure Loadable (inetAton : CStr → Option UInt32) (line : Bytes) (fields : Fields) : Prop where
  exact : lineFields line = [fields.dest, fields.gw, fields.mask, fields.iface]
  short : ∀ word ∈ lineFields line, word.length < fieldSize
  dest : (inetAton fields.dest).isSome
  gw : (inetAton fields.gw).isSome
  mask : (inetAton fields.mask).isSome

theorem Loadable.exists_route {line : Bytes} {fields : Fields} (h : Loadable inetAton line fields) :
    ∃ rt, LineRoute inetAton line rt ∧ fields.Describe inetAton rt ∧
      ∀ old, scanFields line old = some fields := by
  obtain ⟨dest, hdest⟩ := Option.isSome_iff_exists.mp h.dest
  obtain ⟨gw, hgw⟩ := Option.isSome_iff_exists.mp h.gw
  obtain ⟨mask, hmask⟩ := Option.isSome_iff_exists.mp h.mask
  have hdescribe : fields.Describe inetAton
      ⟨dest, gw, mask, strncpy srIfaceNamelen fields.iface⟩ := ⟨hdest, hgw, hmask, rfl⟩
  refine ⟨_, ⟨fields, h.exact ▸ List.prefix_rfl, hdescribe⟩, hdescribe, fun old => ?_⟩
  have hwords : words isspace (cString line) =
      [fields.dest, fields.gw, fields.mask, fields.iface] := h.exact
  have hshort : [fields.dest, fields.gw, fields.mask, fields.iface].all
      (fun word => word.length < fieldSize) = true :=
    List.all_eq_true.mpr fun word hword => decide_eq_true (h.short word (h.exact ▸ hword))
  rw [scanFields, scanWords_eq_take, hwords]
  exact if_pos hshort

/-- Lines that can be loaded are loaded, whatever there was before. -/
theorem loadLoop_of_loadable {ls : List Bytes}
    (h : ∀ line ∈ ls, ∃ fields, Loadable inetAton line fields) :
    ∃ routes, List.Forall₂ (LineRoute inetAton) ls routes ∧ ∀ s : Loading,
      loadLoop inetAton ls s =
        some (0, if ls.isEmpty then s.routingTable else s.kept ++ routes) := by
  induction ls with
  | nil => exact ⟨[], .nil, fun _ => rfl⟩
  | cons line ls ih =>
      obtain ⟨⟨fields, hline⟩, hls⟩ := List.forall_mem_cons.mp h
      obtain ⟨rt, hroute, hdescribe, hscan⟩ := hline.exists_route
      obtain ⟨routes, hroutes, hloop⟩ := ih hls
      refine ⟨rt :: routes, .cons hroute hroutes, fun s => ?_⟩
      refine loadLoop_cons.mpr ⟨fields, rt, hscan s.fields, hdescribe, ?_⟩
      rw [hloop]
      cases ls with
      | nil =>
          cases hroutes
          rfl
      | cons line' ls =>
          exact congrArg (fun table => some (0, table)) (List.append_assoc s.kept [rt] routes)

/-! ### What a file loads -/

/-- One route for each line that holds four fields, in order, each from its
own line. -/
def FromLines (inetAton : CStr → Option UInt32) (content : Bytes) (table : List SrRt) : Prop :=
  List.Forall₂ (LineRoute inetAton) ((lines newline content).filter fun line => HoldsFour line)
    table

/-- **When each route comes from its own line.** When the lines are no longer
than the buffer and the load succeeds, the table is what the lines say if and
only if all of them hold four fields and fit with their newline, and an empty
file was loaded into an empty table. -/
theorem fromLines_iff (inetAton : CStr → Option UInt32) (junk : Fields) (content : Bytes)
    (routingTable table : List SrRt)
    (hlines : ∀ line ∈ lines newline content, (bare newline line).length < bufsiz)
    (hload : srLoadRt inetAton junk (some content) routingTable = some (0, table)) :
    FromLines inetAton content table ↔
      (∀ line ∈ lines newline content, line.length < bufsiz ∧ HoldsFour line) ∧
        (content = [] → routingTable = []) := by
  have hroom : 0 < bufsiz - 1 := by decide
  have hfits {line : Bytes} : line.length ≤ bufsiz - 1 ↔ line.length < bufsiz := by
    rw [bufsiz]
    omega
  obtain ⟨routes, hlen, rfl, hroutes⟩ := loadLoop_spec hload
  by_cases hne : content = []
  · subst hne
    simp [FromLines, lines, reads_nil]
  · have hreads : reads newline (bufsiz - 1) content =
        (lines newline content).flatMap (pieces newline (bufsiz - 1)) :=
      reads_eq_pieces hroom content fun line hline => Nat.le_sub_one_of_lt (hlines line hline)
    have hcons : (reads newline (bufsiz - 1) content).isEmpty = false := by
      rw [reads_of_ne_nil hroom hne]
      rfl
    simp only [hcons, Bool.false_eq_true, if_false, Loading.kept, List.nil_append]
    obtain ⟨hle, hall⟩ := length_flatMap_pieces newline (bufsiz - 1) (lines newline content)
    constructor
    · intro hfrom
      -- there is a route for each read, so nothing but whole lines of four was read
      have hcount := hfrom.length_eq
      have hfilter := List.length_filter_le (fun line => HoldsFour line) (lines newline content)
      rw [hlen, hreads] at hcount
      have hfour := List.length_filter_eq_length_iff.mp
        (show ((lines newline content).filter fun line => HoldsFour line).length = _ by omega)
      refine ⟨fun line hline => ⟨hfits.mp (hall (by omega) line hline), ?_⟩,
        fun hnil => absurd hnil hne⟩
      simpa using hfour line hline
    · rintro ⟨hfour, -⟩
      have hfilter : (lines newline content).filter (fun line => HoldsFour line) =
          lines newline content :=
        List.filter_eq_self.mpr fun line hline => decide_eq_true (hfour line hline).2
      have hlinesRead : reads newline (bufsiz - 1) content = lines newline content :=
        reads_eq_lines hroom content fun line hline => hfits.mpr (hfour line hline).1
      rw [FromLines, hfilter]
      rw [hlinesRead] at hroutes
      exact hroutes fun line hline => (hfour line hline).2

def decimal (digits : CStr) : Option Nat :=
  if digits.isEmpty || 3 < digits.length then none
  else
    digits.foldlM (fun n c => if 48 ≤ c && c ≤ 57 then some (10 * n + (c.toNat - 48)) else none) 0

/-- `inet_aton` on four decimal numbers with dots between them. -/
def dottedQuad (text : CStr) : Option UInt32 :=
  match (text.splitOnP fun c => c == 46).mapM decimal with
  | some [a, b, c, d] =>
    if a < 256 ∧ b < 256 ∧ c < 256 ∧ d < 256 then
      some (UInt32.ofNat (a + 256 * b + 65536 * c + 16777216 * d))
    else none
  | _ => none

def eth1Line : Bytes :=
  [49, 48, 46, 48, 46, 49, 46, 48, 32, 48, 46, 48, 46, 48, 46, 48, 32, 50, 53, 53, 46, 50, 53, 53,
    46, 50, 53, 53, 46, 48, 32, 101, 116, 104, 49, 10]

def eth1Route : SrRt :=
  { dest := 0x0001000a, gw := 0, mask := 0x00ffffff,
    interface := strncpy srIfaceNamelen [101, 116, 104, 49] }

def eth2Line : Bytes :=
  [49, 48, 46, 48, 46, 50, 46, 48, 32, 49, 48, 46, 48, 46, 49, 46, 55, 32, 50, 53, 53, 46, 50, 53,
    53, 46, 50, 53, 53, 46, 48, 32, 101, 116, 104, 50, 10]

def eth2Route : SrRt :=
  { dest := 0x0002000a, gw := 0x0701000a, mask := 0x00ffffff,
    interface := strncpy srIfaceNamelen [101, 116, 104, 50] }

def noFields : Fields := { dest := [], gw := [], mask := [], iface := [] }

/-- Each line gives its own route. -/
theorem fromLines_twoLines :
    FromLines dottedQuad (eth1Line ++ eth2Line) [eth1Route, eth2Route] :=
  (fromLines_iff dottedQuad noFields (eth1Line ++ eth2Line) [] [eth1Route, eth2Route]
    (by decide +kernel) (by decide +kernel)).mpr ⟨by decide +kernel, fun _ => rfl⟩

/-- A blank line at the end of the file gives its last route once more. -/
theorem exists_route_of_blank_line : ¬∀ (inetAton : CStr → Option UInt32) (junk : Fields)
    (content : Bytes) (routingTable table : List SrRt),
    (∀ line ∈ lines newline content, (bare newline line).length < bufsiz) →
    srLoadRt inetAton junk (some content) routingTable = some (0, table) →
    FromLines inetAton content table := by
  intro hall
  have hfrom := hall dottedQuad noFields (eth1Line ++ [newline]) [] [eth1Route, eth1Route]
    (by decide +kernel) (by decide +kernel)
  have hone : ((lines newline (eth1Line ++ [newline])).filter fun line => HoldsFour line).length =
      1 := by decide +kernel
  rw [hfrom.length_eq] at hone
  cases hone

/-- **Loading replaces.** A file of loadable lines is loaded, and the table is
what its lines say, whatever the table was; so loading it again changes
nothing. -/
theorem srLoadRt_replaces (inetAton : CStr → Option UInt32) (content : Bytes)
    (hne : content ≠ [])
    (hlines : ∀ line ∈ lines newline content, (bare newline line).length < bufsiz - 1 ∧
      ∃ fields, Loadable inetAton line fields) :
    ∃ table, List.Forall₂ (LineRoute inetAton) (lines newline content) table ∧
      (∀ junk routingTable,
        srLoadRt inetAton junk (some content) routingTable = some (0, table)) ∧
      ∀ junk junk' routingTable result,
        srLoadRt inetAton junk (some content) routingTable = some result →
        srLoadRt inetAton junk' (some content) result.2 = some result := by
  have hroom : 0 < bufsiz - 1 := by decide
  have hfits : ∀ line ∈ lines newline content, line.length ≤ bufsiz - 1 := fun line hline =>
    Nat.le_trans (length_le_bare content line hline) (hlines line hline).1
  have hlinesRead := reads_eq_lines hroom content hfits
  have hsome : (lines newline content).isEmpty = false := by
    simpa using lines_ne_nil newline hne
  obtain ⟨routes, hroutes, hloop⟩ := loadLoop_of_loadable fun line hline => (hlines line hline).2
  have hload (junk : Fields) (routingTable : List SrRt) :
      srLoadRt inetAton junk (some content) routingTable = some (0, routes) := by
    rw [srLoadRt, hlinesRead, hloop, hsome]
    rfl
  refine ⟨routes, hroutes, hload, fun junk junk' routingTable result h => ?_⟩
  rw [hload] at h
  obtain rfl := Option.some.inj h
  exact hload junk' routes

theorem loadable_eth1Line : Loadable dottedQuad eth1Line
    ⟨[49, 48, 46, 48, 46, 49, 46, 48], [48, 46, 48, 46, 48, 46, 48],
      [50, 53, 53, 46, 50, 53, 53, 46, 50, 53, 53, 46, 48], [101, 116, 104, 49]⟩ :=
  ⟨by decide +kernel, by decide +kernel, by decide +kernel, by decide +kernel, by decide +kernel⟩

theorem loadable_eth2Line : Loadable dottedQuad eth2Line
    ⟨[49, 48, 46, 48, 46, 50, 46, 48], [49, 48, 46, 48, 46, 49, 46, 55],
      [50, 53, 53, 46, 50, 53, 53, 46, 50, 53, 53, 46, 48], [101, 116, 104, 50]⟩ :=
  ⟨by decide +kernel, by decide +kernel, by decide +kernel, by decide +kernel, by decide +kernel⟩

theorem loadable_twoLines : ∀ line ∈ lines newline (eth1Line ++ eth2Line),
    (bare newline line).length < bufsiz - 1 ∧ ∃ fields, Loadable dottedQuad line fields := by
  have hlines : lines newline (eth1Line ++ eth2Line) = [eth1Line, eth2Line] := by decide +kernel
  rw [hlines]
  refine List.forall_mem_cons.mpr ⟨⟨by decide +kernel, _, loadable_eth1Line⟩, ?_⟩
  exact List.forall_mem_singleton.mpr ⟨by decide +kernel, _, loadable_eth2Line⟩

/-- Two lines are loaded over the routes they gave before. -/
theorem srLoadRt_replaces_twoLines :
    ∃ table, List.Forall₂ (LineRoute dottedQuad) (lines newline (eth1Line ++ eth2Line)) table ∧
      (∀ junk routingTable,
        srLoadRt dottedQuad junk (some (eth1Line ++ eth2Line)) routingTable = some (0, table)) ∧
      ∀ junk junk' routingTable result,
        srLoadRt dottedQuad junk (some (eth1Line ++ eth2Line)) routingTable = some result →
        srLoadRt dottedQuad junk' (some (eth1Line ++ eth2Line)) result.2 = some result :=
  srLoadRt_replaces dottedQuad (eth1Line ++ eth2Line) (List.cons_ne_nil _ _) loadable_twoLines

end SrRouter
