import SrRouter.Startup

/-!
The routing table as it is printed (`sr_rt.c`), and read again.

The lines of the entries are lines of a file that `sr_load_rt` accepts, and a
table that was loaded is what they load. With the headings in front they are
not: a file with the whole output leaves the table that there was.
-/

namespace SrRouter

open ByteBuffer CString TextInput

/-! ### Printing -/

def byteText (b : Nat) : CStr :=
  (if 100 ≤ b then [UInt8.ofNat (48 + b / 100)] else []) ++
    (if 10 ≤ b then [UInt8.ofNat (48 + b / 10 % 10)] else []) ++ [UInt8.ofNat (48 + b % 10)]

def inetNtoa (ip : UInt32) : CStr :=
  byteText (ip.toNat % 256) ++ 46 :: byteText (ip.toNat / 256 % 256) ++
    46 :: byteText (ip.toNat / 65536 % 256) ++ 46 :: byteText (ip.toNat / 16777216)

def tab : UInt8 := 9

/-- The line of an entry, less its end. The name ends inside its field. -/
def entryText (entry : SrRt) : Bytes :=
  inetNtoa entry.dest ++ tab :: (tab :: (inetNtoa entry.gw ++
    tab :: (inetNtoa entry.mask ++ tab :: cString entry.interface)))

def srPrintRoutingEntry (entry : SrRt) : Bytes := entryText entry ++ [newline]

def ascii (text : String) : Bytes := text.toList.map fun c => UInt8.ofNat c.toNat

def srPrintRoutingTable (routingTable : List SrRt) : Bytes :=
  if routingTable = [] then ascii " *warning* Routing table empty \n"
  else ascii "Destination\tGateway\t\tMask\tIface\n" ++ routingTable.flatMap srPrintRoutingEntry

/-! ### Words -/

/-- What `%s` reads whole. -/
structure Word (w : CStr) : Prop where
  ne_nil : w ≠ []
  blank : ∀ c ∈ w, isspace c = false
  zero : ∀ c ∈ w, c ≠ 0

theorem byteText_checks : ∀ b < 256, byteText b ≠ [] ∧ (byteText b).length ≤ 3 ∧
    decimal (byteText b) = some b ∧
    ((byteText b).all fun c => !isspace c && c != 0 && c != 46) = true := by
  decide +kernel

theorem mem_byteText {b : Nat} (hb : b < 256) {c : UInt8} (hc : c ∈ byteText b) :
    isspace c = false ∧ c ≠ 0 ∧ c ≠ 46 := by
  simpa [and_assoc] using List.all_eq_true.mp (byteText_checks b hb).2.2.2 c hc

theorem bytes_lt (ip : UInt32) : ip.toNat % 256 < 256 ∧ ip.toNat / 256 % 256 < 256 ∧
    ip.toNat / 65536 % 256 < 256 ∧ ip.toNat / 16777216 < 256 := by
  have hlt := ip.toNat_lt
  omega

theorem word_inetNtoa (ip : UInt32) : Word (inetNtoa ip) ∧ (inetNtoa ip).length < fieldSize := by
  obtain ⟨ha, hb, hc, hd⟩ := bytes_lt ip
  have hbyte {b : Nat} (hb : b < 256) {c : UInt8} (hc : c ∈ byteText b) :
      isspace c = false ∧ c ≠ 0 := ⟨(mem_byteText hb hc).1, (mem_byteText hb hc).2.1⟩
  have hall : ∀ c ∈ inetNtoa ip, isspace c = false ∧ c ≠ 0 := by
    intro c hmem
    simp only [inetNtoa, List.append_assoc, List.cons_append, List.mem_append, List.mem_cons]
      at hmem
    obtain hmem | rfl | hmem | rfl | hmem | rfl | hmem := hmem
    · exact hbyte ha hmem
    · decide
    · exact hbyte hb hmem
    · decide
    · exact hbyte hc hmem
    · decide
    · exact hbyte hd hmem
  refine ⟨⟨?_, fun c hc => (hall c hc).1, fun c hc => (hall c hc).2⟩, ?_⟩
  · simp [inetNtoa]
  · have hlena := (byteText_checks _ ha).2.1
    have hlenb := (byteText_checks _ hb).2.1
    have hlenc := (byteText_checks _ hc).2.1
    have hlend := (byteText_checks _ hd).2.1
    simp only [inetNtoa, List.length_append, List.length_cons, fieldSize]
    omega

theorem mem_scanWords {α : Type} {blank : α → Bool} {n : Nat} {text w : List α}
    (h : w ∈ scanWords blank n text) : w ≠ [] ∧ ∀ a ∈ w, blank a = false ∧ a ∈ text := by
  induction n generalizing text with
  | zero => cases h
  | succ n ih =>
      rw [scanWords, scanWord] at h
      cases hdrop : text.dropWhile blank with
      | nil => simp [hdrop] at h
      | cons a rest =>
          rw [hdrop] at h
          have hsub : ∀ b ∈ a :: rest, b ∈ text := fun b hb =>
            (List.dropWhile_sublist blank).subset (hdrop ▸ hb)
          have ha : blank a = false := by
            have hhead := List.head?_dropWhile_not blank text
            rw [hdrop] at hhead
            simpa using hhead
          obtain rfl | h := List.mem_cons.mp h
          · refine ⟨by simp [ha], fun b hb => ⟨?_, hsub b ((List.takeWhile_sublist _).subset hb)⟩⟩
            simpa using List.mem_takeWhile_imp hb
          · obtain ⟨hne, hall⟩ := ih h
            exact ⟨hne, fun b hb => ⟨(hall b hb).1,
              hsub b ((List.dropWhile_sublist _).subset (hall b hb).2)⟩⟩

theorem Loadable.word {inetAton : CStr → Option UInt32} {line : Bytes} {fields : Fields}
    (h : Loadable inetAton line fields) : Word fields.iface ∧ fields.iface.length < fieldSize := by
  have hmem : fields.iface ∈ lineFields line := by
    rw [h.exact]
    simp
  have hscan : fields.iface ∈ scanWords isspace 4 (cString line) := by
    rw [scanWords_eq_take, show words isspace (cString line) = _ from h.exact]
    simp
  obtain ⟨hne, hall⟩ := mem_scanWords hscan
  refine ⟨⟨hne, fun c hc => (hall c hc).1, fun c hc => ?_⟩, h.short _ hmem⟩
  simpa using List.mem_takeWhile_imp (hall c hc).2

/-! ### The line of an entry -/

def Printable (entry : SrRt) : Prop :=
  ∃ name, Word name ∧ name.length < fieldSize ∧ entry.interface = strncpy srIfaceNamelen name

theorem Word.cString_eq {w : CStr} (h : Word w) : cString w = w :=
  List.takeWhile_eq_self_iff.mpr fun c hc => by simpa using h.zero c hc

theorem Word.words_eq {w : CStr} (h : Word w) : words isspace w = [w] :=
  words_of_forall h.ne_nil h.blank

section Entry

variable {entry : SrRt} {name : CStr}

theorem entryText_eq (hname : Word name) (hshort : name.length < fieldSize)
    (hentry : entry.interface = strncpy srIfaceNamelen name) :
    entryText entry = inetNtoa entry.dest ++ tab :: (tab :: (inetNtoa entry.gw ++
      tab :: (inetNtoa entry.mask ++ tab :: name))) := by
  have hle : name.length ≤ srIfaceNamelen := Nat.le_of_lt hshort
  rw [entryText, hentry, cString_strncpy hle, hname.cString_eq]

theorem mem_entryText (hname : Word name) (hshort : name.length < fieldSize)
    (hentry : entry.interface = strncpy srIfaceNamelen name) {c : UInt8}
    (hc : c ∈ entryText entry) : c = tab ∨ (isspace c = false ∧ c ≠ 0) := by
  have hword {w : CStr} (h : Word w) (hc : c ∈ w) : c = tab ∨ (isspace c = false ∧ c ≠ 0) :=
    .inr ⟨h.blank c hc, h.zero c hc⟩
  rw [entryText_eq hname hshort hentry] at hc
  simp only [List.mem_append, List.mem_cons] at hc
  obtain hc | rfl | rfl | hc | rfl | hc | rfl | hc := hc
  · exact hword (word_inetNtoa _).1 hc
  · exact .inl rfl
  · exact .inl rfl
  · exact hword (word_inetNtoa _).1 hc
  · exact .inl rfl
  · exact hword (word_inetNtoa _).1 hc
  · exact .inl rfl
  · exact hword hname hc

theorem newline_not_mem_entryText (h : Printable entry) : newline ∉ entryText entry := by
  obtain ⟨name, hname, hshort, hentry⟩ := h
  intro hmem
  obtain htab | ⟨hblank, -⟩ := mem_entryText hname hshort hentry hmem
  · exact absurd htab (by decide)
  · exact absurd hblank (by decide)

theorem length_entryText (h : Printable entry) : (entryText entry).length < 160 := by
  obtain ⟨name, hname, hshort, hentry⟩ := h
  have hdest := (word_inetNtoa entry.dest).2
  have hgw := (word_inetNtoa entry.gw).2
  have hmask := (word_inetNtoa entry.mask).2
  rw [entryText_eq hname hshort hentry]
  simp only [List.length_append, List.length_cons]
  unfold fieldSize at *
  omega

/-- The line holds the four fields of its entry. -/
theorem lineFields_entry (hname : Word name) (hshort : name.length < fieldSize)
    (hentry : entry.interface = strncpy srIfaceNamelen name) :
    lineFields (srPrintRoutingEntry entry) =
      [inetNtoa entry.dest, inetNtoa entry.gw, inetNtoa entry.mask, name] := by
  have hzero : cString (srPrintRoutingEntry entry) = srPrintRoutingEntry entry := by
    refine List.takeWhile_eq_self_iff.mpr fun c hc => ?_
    obtain hc | hc := List.mem_append.mp hc
    · obtain rfl | ⟨-, hc⟩ := mem_entryText hname hshort hentry hc
      · decide
      · simpa using hc
    · obtain rfl := List.mem_singleton.mp hc
      decide
  have htab : isspace tab = true := rfl
  have hend : isspace newline = true := rfl
  rw [lineFields, hzero, srPrintRoutingEntry, words_append_blank hend,
    entryText_eq hname hshort hentry, words_append_blank htab,
    words_cons_blank htab, words_append_blank htab,
    words_append_blank htab, (word_inetNtoa _).1.words_eq, (word_inetNtoa _).1.words_eq,
    (word_inetNtoa _).1.words_eq, hname.words_eq]
  rfl

theorem loadable_entry {inetAton : CStr → Option UInt32}
    (haton : ∀ ip, inetAton (inetNtoa ip) = some ip) (h : Printable entry) :
    ∃ fields, Loadable inetAton (srPrintRoutingEntry entry) fields := by
  obtain ⟨name, hname, hshort, hentry⟩ := h
  have hfields := lineFields_entry hname hshort hentry
  refine ⟨⟨inetNtoa entry.dest, inetNtoa entry.gw, inetNtoa entry.mask, name⟩, hfields, ?_,
    ?_, ?_, ?_⟩
  · intro word hword
    rw [hfields] at hword
    simp only [List.mem_cons, List.not_mem_nil, or_false] at hword
    obtain rfl | rfl | rfl | rfl := hword
    · exact (word_inetNtoa _).2
    · exact (word_inetNtoa _).2
    · exact (word_inetNtoa _).2
    · exact hshort
  · simp [haton]
  · simp [haton]
  · simp [haton]

/-- The only route that the line describes is its entry. -/
theorem eq_of_lineRoute {inetAton : CStr → Option UInt32}
    (haton : ∀ ip, inetAton (inetNtoa ip) = some ip) (h : Printable entry) {rt : SrRt}
    (hrt : LineRoute inetAton (srPrintRoutingEntry entry) rt) : rt = entry := by
  obtain ⟨name, hname, hshort, hentry⟩ := h
  obtain ⟨⟨dest, gw, mask, iface⟩, hprefix, hdescribe⟩ := hrt
  rw [lineFields_entry hname hshort hentry] at hprefix
  have heq := hprefix.eq_of_length rfl
  obtain ⟨rfl, rfl, rfl, rfl⟩ : dest = inetNtoa entry.dest ∧ gw = inetNtoa entry.gw ∧
      mask = inetNtoa entry.mask ∧ iface = name := by simpa using heq
  obtain ⟨hdest, hgw, hmask, hiface⟩ := hdescribe
  rw [haton] at hdest hgw hmask
  obtain ⟨rdest, rgw, rmask, riface⟩ := rt
  obtain rfl := Option.some.inj hdest
  obtain rfl := Option.some.inj hgw
  obtain rfl := Option.some.inj hmask
  obtain rfl : riface = entry.interface := hiface.trans hentry.symm
  rfl

end Entry

/-! ### Four numbers with dots -/

/-- What `inet_ntoa` writes is read again. -/
theorem dottedQuad_inetNtoa (ip : UInt32) : dottedQuad (inetNtoa ip) = some ip := by
  obtain ⟨ha, hb, hc, hd⟩ := bytes_lt ip
  have hcut (text rest : CStr) : (text ++ 46 :: rest).splitOnP (fun c => c == 46) =
      text.splitOnP (fun c => c == 46) ++ rest.splitOnP (fun c => c == 46) :=
    List.splitOnP_append_cons text rest rfl
  have hwhole {b : Nat} (hb : b < 256) :
      (byteText b).splitOnP (fun c => c == 46) = [byteText b] :=
    List.splitOnP_eq_singleton fun c hc => beq_eq_false_iff_ne.mpr (mem_byteText hb hc).2.2
  have hdecimal {b : Nat} (hb : b < 256) : decimal (byteText b) = some b :=
    (byteText_checks b hb).2.2.1
  have hsplit : (inetNtoa ip).splitOnP (fun c => c == 46) =
      [byteText (ip.toNat % 256), byteText (ip.toNat / 256 % 256),
        byteText (ip.toNat / 65536 % 256), byteText (ip.toNat / 16777216)] := by
    rw [inetNtoa]
    simp only [List.append_assoc, List.cons_append]
    rw [hcut, hcut, hcut, hwhole ha, hwhole hb, hwhole hc, hwhole hd]
    rfl
  have hnumbers : [byteText (ip.toNat % 256), byteText (ip.toNat / 256 % 256),
      byteText (ip.toNat / 65536 % 256), byteText (ip.toNat / 16777216)].mapM decimal =
      some [ip.toNat % 256, ip.toNat / 256 % 256, ip.toNat / 65536 % 256,
        ip.toNat / 16777216] := by
    simp [hdecimal ha, hdecimal hb, hdecimal hc, hdecimal hd]
  have hsum : ip.toNat % 256 + 256 * (ip.toNat / 256 % 256) +
      65536 * (ip.toNat / 65536 % 256) + 16777216 * (ip.toNat / 16777216) = ip.toNat := by
    omega
  rw [dottedQuad, hsplit, hnumbers]
  refine (if_pos ⟨ha, hb, hc, hd⟩).trans ?_
  rw [hsum, UInt32.ofNat_toNat]

/-! ### The printed table -/

section Table

variable {table : List SrRt}

theorem lines_entries (h : ∀ entry ∈ table, Printable entry) :
    lines newline (table.flatMap srPrintRoutingEntry) = table.map srPrintRoutingEntry := by
  induction table with
  | nil => rfl
  | cons entry table ih =>
      obtain ⟨hentry, htable⟩ := List.forall_mem_cons.mp h
      have happend : srPrintRoutingEntry entry ++ table.flatMap srPrintRoutingEntry =
          entryText entry ++ newline :: table.flatMap srPrintRoutingEntry :=
        List.append_assoc (entryText entry) [newline] _
      rw [List.flatMap_cons, happend, lines_append (newline_not_mem_entryText hentry), ih htable]
      rfl

theorem fits_entries (h : ∀ entry ∈ table, Printable entry) :
    ∀ line ∈ table.map srPrintRoutingEntry, line.length ≤ bufsiz - 1 := by
  intro line hline
  obtain ⟨entry, hentry, rfl⟩ := List.mem_map.mp hline
  have hlength := length_entryText (h entry hentry)
  rw [srPrintRoutingEntry, List.length_append]
  unfold bufsiz
  simp only [List.length_singleton]
  omega

variable {inetAton : CStr → Option UInt32}

/-- **The lines of the entries load the entries.** -/
theorem srLoadRt_entries (haton : ∀ ip, inetAton (inetNtoa ip) = some ip)
    (h : ∀ entry ∈ table, Printable entry) (hne : table ≠ []) (junk : Fields) (old : List SrRt) :
    srLoadRt inetAton junk (some (table.flatMap srPrintRoutingEntry)) old = some (0, table) := by
  have hlines := lines_entries h
  have hfits := fits_entries h
  have htext : table.flatMap srPrintRoutingEntry ≠ [] := by
    intro hnil
    rw [hnil] at hlines
    exact hne (List.map_eq_nil_iff.mp hlines.symm)
  have hloadable : ∀ line ∈ lines newline (table.flatMap srPrintRoutingEntry),
      line.length ≤ bufsiz - 1 ∧ ∃ fields, Loadable inetAton line fields := by
    rw [hlines]
    refine fun line hline => ⟨hfits line hline, ?_⟩
    obtain ⟨entry, hentry, rfl⟩ := List.mem_map.mp hline
    exact loadable_entry haton (h entry hentry)
  obtain ⟨read, hread, hload⟩ := srLoadRt_of_loadable htext hloadable
  -- each route that is read is the entry whose line it was
  have hsame : read = table := by
    rw [hlines, List.forall₂_map_left_iff] at hread
    clear hload hloadable hlines hfits htext hne
    induction hread with
    | nil => rfl
    | cons hroute _ ih =>
        obtain ⟨hentry, htable⟩ := List.forall_mem_cons.mp h
        rw [eq_of_lineRoute haton hentry hroute, ih htable]
  rw [hload, hsame]

/-- What a loadable line gives can be printed. -/
theorem printable_of_lineRoute {line : Bytes} {fields : Fields} {rt : SrRt}
    (hline : Loadable inetAton line fields) (hrt : LineRoute inetAton line rt) : Printable rt := by
  obtain ⟨⟨dest, gw, mask, iface⟩, hprefix, hdescribe⟩ := hrt
  rw [hline.exact] at hprefix
  have heq := hprefix.eq_of_length rfl
  simp only [List.cons.injEq, and_true] at heq
  obtain ⟨-, -, -, rfl⟩ := heq
  exact ⟨_, hline.word.1, hline.word.2, hdescribe.interface⟩

theorem printable_of_routes {ls : List Bytes}
    (hls : ∀ line ∈ ls, ∃ fields, Loadable inetAton line fields)
    (h : List.Forall₂ (LineRoute inetAton) ls table) : ∀ entry ∈ table, Printable entry := by
  induction h with
  | nil => exact fun _ hentry => absurd hentry List.not_mem_nil
  | cons hroute _ ih =>
      obtain ⟨⟨fields, hline⟩, hls⟩ := List.forall_mem_cons.mp hls
      exact List.forall_mem_cons.mpr ⟨printable_of_lineRoute hline hroute, ih hls⟩

/-! ### The headings -/

def headings : Bytes := ascii "Destination\tGateway\t\tMask\tIface"

theorem headings_line :
    ascii "Destination\tGateway\t\tMask\tIface\n" = headings ++ [newline] := by
  decide +kernel

/-- The headings are a line of four words, and the first is not an address. -/
theorem loadLoop_headings (hheading : inetAton (ascii "Destination") = none) (rest : List Bytes)
    (s : Loading) :
    loadLoop inetAton ((headings ++ [newline]) :: rest) s = some (-1, s.routingTable) := by
  have hwords : scanWords isspace 4 (cString (headings ++ [newline])) =
      [ascii "Destination", ascii "Gateway", ascii "Mask", ascii "Iface"] := by decide +kernel
  have hscan : ∀ fields, scanFields (headings ++ [newline]) fields = some
      ⟨ascii "Destination", ascii "Gateway", ascii "Mask", ascii "Iface"⟩ := by
    intro fields
    rw [scanFields, hwords]
    rfl
  rw [loadLoop, hscan]
  simp only [hheading]

/-- **The whole output loads nothing**, and leaves the table that there was. -/
theorem srLoadRt_output (hheading : inetAton (ascii "Destination") = none)
    (h : ∀ entry ∈ table, Printable entry) (hne : table ≠ []) (junk : Fields) (old : List SrRt) :
    srLoadRt inetAton junk (some (srPrintRoutingTable table)) old = some (-1, old) := by
  have hlines : lines newline (srPrintRoutingTable table) =
      (headings ++ [newline]) :: table.map srPrintRoutingEntry := by
    have hprint : srPrintRoutingTable table =
        headings ++ newline :: table.flatMap srPrintRoutingEntry := by
      rw [srPrintRoutingTable, if_neg hne, headings_line, List.append_assoc]
      rfl
    rw [hprint, lines_append (by decide), lines_entries h]
  have hread := reads_eq_lines (by decide : 0 < bufsiz - 1) (srPrintRoutingTable table) (by
    rw [hlines]
    exact List.forall_mem_cons.mpr ⟨by decide, fits_entries h⟩)
  rw [srLoadRt, hread, hlines, loadLoop_headings hheading]

end Table

/-- **A table that was loaded is printed as what loads it.** The lines of its
entries load the same table again, but the output with its headings is
refused. -/
theorem srLoadRt_printed {inetAton : CStr → Option UInt32}
    (haton : ∀ ip, inetAton (inetNtoa ip) = some ip)
    (hheading : inetAton (ascii "Destination") = none) {text : Bytes} (hne : text ≠ [])
    (hlines : ∀ line ∈ lines newline text, line.length ≤ bufsiz - 1 ∧
      ∃ fields, Loadable inetAton line fields) :
    ∃ table, (∀ junk old, srLoadRt inetAton junk (some text) old = some (0, table)) ∧
      (∀ junk old, srLoadRt inetAton junk (some (table.flatMap srPrintRoutingEntry)) old =
        some (0, table)) ∧
      ∀ junk old, srLoadRt inetAton junk (some (srPrintRoutingTable table)) old =
        some (-1, old) := by
  obtain ⟨table, htable, hload⟩ := srLoadRt_of_loadable hne hlines
  have hprint : ∀ entry ∈ table, Printable entry :=
    printable_of_routes (fun line hline => (hlines line hline).2) htable
  have htableNe : table ≠ [] := by
    rintro rfl
    exact lines_ne_nil newline hne (List.forall₂_nil_right_iff.mp htable)
  exact ⟨table, hload, srLoadRt_entries haton hprint htableNe,
    srLoadRt_output hheading hprint htableNe⟩

/-- Two routes, printed and read. -/
theorem srLoadRt_printed_twoLines :
    ∃ table, (∀ junk old, srLoadRt dottedQuad junk (some (eth1Line ++ eth2Line)) old =
        some (0, table)) ∧
      (∀ junk old, srLoadRt dottedQuad junk (some (table.flatMap srPrintRoutingEntry)) old =
        some (0, table)) ∧
      ∀ junk old, srLoadRt dottedQuad junk (some (srPrintRoutingTable table)) old =
        some (-1, old) := by
  refine srLoadRt_printed dottedQuad_inetNtoa (by decide +kernel) (List.cons_ne_nil _ _) ?_
  refine fun line hline => ⟨?_, (loadable_twoLines line hline).2⟩
  exact Nat.le_trans (length_le_bare _ line hline) (loadable_twoLines line hline).1

end SrRouter
