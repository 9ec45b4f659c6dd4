import SrRouter.Authentication

/-!
What the router asks the server to open (`sr_connect_to_server`, in
`sr_vns_comm.c`).

It opens a topology by its number, or a template by its name. `OpenRequest` is
what the server takes the packet for, by the layouts of `c_open` and
`c_open_template`.
-/

namespace SrRouter

open ByteBuffer CString

def vnsOpen : UInt32 := 1
def vnsOpenTemplate : UInt32 := 64
def sizeofCOpen : Nat := 108
def sizeofCOpenTemplate : Nat := 70

/-- The VNSOPEN message; the packet is zeroed first. -/
def cOpen (sr : Account) : Bytes :=
  let command := List.replicate sizeofCOpen 0
  let command := store32 command 0 (htonl (UInt32.ofNat sizeofCOpen))
  let command := store32 command 4 (htonl vnsOpen)
  let command := store16 command 8 (htons sr.topoId)
  let command := blit command 12 (strncpy idsize sr.host.toList)
  blit command 44 (strncpy idsize sr.user.toList)

/-- The VNS_OPEN_TEMPLATE message, on the stack. -/
def cOpenTemplate (stack : Nat → UInt8) (sr : Account) : Bytes :=
  let ot := block stack sizeofCOpenTemplate
  let ot := store32 ot 0 (htonl (UInt32.ofNat sizeofCOpenTemplate))
  let ot := store32 ot 4 (htonl vnsOpenTemplate)
  let ot := blit ot 8 (strncpy 30 sr.template.toList)
  blit ot 38 (strncpy idsize sr.host.toList)

/-- `strlen(sr->template) > 0`. -/
def Account.hasTemplate (sr : Account) : Bool := sr.template.toList.headD 0 != 0

def Account.opening (sr : Account) (stack : Nat → UInt8) : Bytes :=
  if sr.hasTemplate then cOpenTemplate stack sr else cOpen sr

/-! ### What is opened, read back -/

inductive OpenRequest
  | topology (id : UInt16) (host user : CStr)
  | template (name host : CStr)
  deriving DecidableEq

/-- By the layout of `c_open` and `c_open_template`. -/
def OpenRequest.parse (bytes : Bytes) : Option OpenRequest :=
  if (ntohl (load32 bytes 0)).toNat ≠ bytes.length then none
  else if ntohl (load32 bytes 4) = vnsOpen ∧ bytes.length = sizeofCOpen then
    some (.topology (ntohs (load16 bytes 8)) (cString (slice bytes 12 32))
      (cString (slice bytes 44 32)))
  else if ntohl (load32 bytes 4) = vnsOpenTemplate ∧ sizeofCOpenTemplate ≤ bytes.length then
    some (.template (cString (slice bytes 8 30)) (cString (slice bytes 38 32)))
  else none

def Account.request (sr : Account) : OpenRequest :=
  if sr.hasTemplate then .template (cString sr.template.toList) (cString sr.host.toList)
  else .topology sr.topoId (cString sr.host.toList) (cString sr.user.toList)

theorem cString_strncpy {n : Nat} {s : CStr} (h : s.length ≤ n) :
    cString (strncpy n s) = cString s := by
  induction n generalizing s with
  | zero => rw [List.eq_nil_of_length_eq_zero (Nat.le_zero.mp h), strncpy]
  | succ n ih =>
      cases s with
      | nil => rfl
      | cons x s =>
          rw [strncpy, List.headD_cons, List.tail_cons]
          by_cases hx : x = 0
          · simp [hx, cString, List.replicate_succ]
          · have hrest := ih (Nat.le_of_succ_le_succ h)
            unfold cString at hrest ⊢
            rw [if_neg hx, List.takeWhile_cons_of_pos (by simpa using hx), hrest,
              List.takeWhile_cons_of_pos (by simpa using hx)]

theorem parse_cOpen {sr : Account} (h : sr.hasTemplate = false) :
    OpenRequest.parse (cOpen sr) = some sr.request := by
  have hlength : (cOpen sr).length = sizeofCOpen := by simp [cOpen]
  have hmLen : ntohl (load32 (cOpen sr) 0) = UInt32.ofNat sizeofCOpen := by
    rw [cOpen, load32_blit_apart (.inl (by decide)), load32_blit_apart (.inl (by decide)),
      store16, load32_blit_apart (.inl (by decide)), store32, load32_blit_apart (.inl (by decide)),
      load32_store32 (by simp [sizeofCOpen])]
    exact ntohl_ntohl _
  have hmType : ntohl (load32 (cOpen sr) 4) = vnsOpen := by
    rw [cOpen, load32_blit_apart (.inl (by decide)), load32_blit_apart (.inl (by decide)),
      store16, load32_blit_apart (.inl (by decide)), load32_store32 (by simp [sizeofCOpen])]
    exact ntohl_ntohl _
  have htopo : ntohs (load16 (cOpen sr) 8) = sr.topoId := by
    rw [cOpen, load16_blit_apart (.inl (by decide)), load16_blit_apart (.inl (by decide)),
      load16_store16 (by simp [sizeofCOpen])]
    exact ntohs_htons _
  have hhost : slice (cOpen sr) 12 32 = strncpy 32 sr.host.toList := by
    rw [cOpen, slice_blit_apart (.inl (by decide)),
      slice_blit_self (by simp [idsize]) (by simp [sizeofCOpen])]
    rfl
  have huser : slice (cOpen sr) 44 32 = strncpy 32 sr.user.toList := by
    rw [cOpen, slice_blit_self (by simp [idsize]) (by simp [sizeofCOpen])]
    rfl
  have hlen : (UInt32.ofNat sizeofCOpen).toNat = sizeofCOpen := rfl
  rw [OpenRequest.parse, hmLen, hmType, htopo, hhost, huser, hlength, hlen, if_neg (by simp),
    if_pos ⟨rfl, rfl⟩, cString_strncpy (by simp), cString_strncpy (by simp), Account.request, h,
    if_neg (by decide)]

theorem parse_cOpenTemplate (stack : Nat → UInt8) {sr : Account} (h : sr.hasTemplate = true) :
    OpenRequest.parse (cOpenTemplate stack sr) = some sr.request := by
  have hlength : (cOpenTemplate stack sr).length = sizeofCOpenTemplate := by simp [cOpenTemplate]
  have hmLen : ntohl (load32 (cOpenTemplate stack sr) 0) = UInt32.ofNat sizeofCOpenTemplate := by
    rw [cOpenTemplate, load32_blit_apart (.inl (by decide)), load32_blit_apart (.inl (by decide)),
      store32, load32_blit_apart (.inl (by decide)), load32_store32 (by simp [sizeofCOpenTemplate])]
    exact ntohl_ntohl _
  have hmType : ntohl (load32 (cOpenTemplate stack sr) 4) = vnsOpenTemplate := by
    rw [cOpenTemplate, load32_blit_apart (.inl (by decide)), load32_blit_apart (.inl (by decide)),
      load32_store32 (by simp [sizeofCOpenTemplate])]
    exact ntohl_ntohl _
  have hname : slice (cOpenTemplate stack sr) 8 30 = strncpy 30 sr.template.toList := by
    rw [cOpenTemplate, slice_blit_apart (.inl (by decide)),
      slice_blit_self (by simp) (by simp [sizeofCOpenTemplate])]
  have hhost : slice (cOpenTemplate stack sr) 38 32 = strncpy 32 sr.host.toList := by
    rw [cOpenTemplate, slice_blit_self (by simp [idsize]) (by simp [sizeofCOpenTemplate])]
    rfl
  have hlen : (UInt32.ofNat sizeofCOpenTemplate).toNat = sizeofCOpenTemplate := rfl
  rw [OpenRequest.parse, hmLen, hmType, hname, hhost, hlength, hlen, if_neg (by simp),
    if_neg (fun hopen => absurd hopen.1 (by decide)), if_pos ⟨rfl, Nat.le_refl _⟩,
    cString_strncpy (by simp), cString_strncpy (by simp), Account.request, h, if_pos rfl]

theorem parse_opening (sr : Account) (stack : Nat → UInt8) :
    OpenRequest.parse (sr.opening stack) = some sr.request := by
  rw [Account.opening]
  split
  · next h => exact parse_cOpenTemplate stack h
  · next h => exact parse_cOpen (by simpa using h)

end SrRouter
