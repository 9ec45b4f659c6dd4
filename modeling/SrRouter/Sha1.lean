import Mathlib.Algebra.Group.Nat.Defs
import SrRouter.Lib.ByteBuffer

/-!
The hash function of the authentication (`sha1.c`).

A context takes the message in pieces. It counts the bits in two words of 32
bits, keeps the octets of the block that is not complete, and is corrupted once
the count wraps or once octets arrive behind the result. A store outside of
the block and a read outside of the message have no result.
-/

namespace SrRouter

open ByteBuffer

/-- Five words: `Message_Digest`, and the buffers `A` to `E`. -/
structure Sha1Words where
  a : UInt32
  b : UInt32
  c : UInt32
  d : UInt32
  e : UInt32
  deriving DecidableEq

structure Sha1Context where
  messageDigest : Sha1Words
  lengthLow : UInt32
  lengthHigh : UInt32
  messageBlock : Vector UInt8 64
  messageBlockIndex : Nat
  computed : Bool
  corrupted : Bool

def sha1CircularShift (bits word : UInt32) : UInt32 := word <<< bits ||| word >>> (32 - bits)

def sha1InitialDigest : Sha1Words where
  a := 0x67452301
  b := 0xEFCDAB89
  c := 0x98BADCFE
  d := 0x10325476
  e := 0xC3D2E1F0

/-- `SHA1Reset`; the block keeps what it holds. -/
def sha1Reset (context : Sha1Context) : Sha1Context :=
  { context with
    lengthLow := 0
    lengthHigh := 0
    messageBlockIndex := 0
    messageDigest := sha1InitialDigest
    computed := false
    corrupted := false }

/-! ### `SHA1ProcessMessageBlock` -/

def sha1BlockWord (block : Bytes) (t : Nat) : UInt32 :=
  (load8 block (t * 4)).toUInt32 <<< 24 ||| (load8 block (t * 4 + 1)).toUInt32 <<< 16 |||
    (load8 block (t * 4 + 2)).toUInt32 <<< 8 ||| (load8 block (t * 4 + 3)).toUInt32

/-- The loop over the other words, `n` turns of it; the list is what is assigned
of `W`. -/
def sha1Extend : Nat → List UInt32 → List UInt32
  | 0, w => w
  | n + 1, w =>
    let t := w.length
    sha1Extend n (w ++
      [sha1CircularShift 1
        (w.getD (t - 3) 0 ^^^ w.getD (t - 8) 0 ^^^ w.getD (t - 14) 0 ^^^ w.getD (t - 16) 0)])

def sha1Words (block : Bytes) : List UInt32 :=
  sha1Extend 64 ((List.range 16).map (sha1BlockWord block))

/-- The body of the loops: the function and the constant are their own. -/
def sha1Turn (f : UInt32 → UInt32 → UInt32 → UInt32) (k : UInt32) (v : Sha1Words)
    (word : UInt32) : Sha1Words where
  a := sha1CircularShift 5 v.a + f v.b v.c v.d + v.e + word + k
  b := v.a
  c := sha1CircularShift 30 v.b
  d := v.c
  e := v.d

def sha1Loop (f : UInt32 → UInt32 → UInt32 → UInt32) (k : UInt32) (w : List UInt32) (t : Nat)
    (v : Sha1Words) : Sha1Words :=
  (List.range' t 20).foldl (fun v t => sha1Turn f k v (w.getD t 0)) v

def Sha1Words.add (v v' : Sha1Words) : Sha1Words :=
  ⟨v.a + v'.a, v.b + v'.b, v.c + v'.c, v.d + v'.d, v.e + v'.e⟩

def sha1ProcessBlock (digest : Sha1Words) (block : Bytes) : Sha1Words :=
  let w := sha1Words block
  let v := sha1Loop (fun b c d => b &&& c ||| ~~~b &&& d) 0x5A827999 w 0 digest
  let v := sha1Loop (fun b c d => b ^^^ c ^^^ d) 0x6ED9EBA1 w 20 v
  let v := sha1Loop (fun b c d => b &&& c ||| b &&& d ||| c &&& d) 0x8F1BBCDC w 40 v
  let v := sha1Loop (fun b c d => b ^^^ c ^^^ d) 0xCA62C1D6 w 60 v
  digest.add v

namespace Sha1Context

def processMessageBlock (context : Sha1Context) : Sha1Context :=
  { context with
    messageDigest := sha1ProcessBlock context.messageDigest context.messageBlock.toList
    messageBlockIndex := 0 }

/-- `Message_Block[Message_Block_Index++] = octet`. -/
def put (context : Sha1Context) (octet : UInt8) : Option Sha1Context :=
  if h : context.messageBlockIndex < 64 then
    some { context with
      messageBlock := context.messageBlock.set context.messageBlockIndex octet h
      messageBlockIndex := context.messageBlockIndex + 1 }
  else none

/-! ### `SHA1Input` -/

def count (context : Sha1Context) : Sha1Context :=
  let low := context.lengthLow + 8
  let high := if low = 0 then context.lengthHigh + 1 else context.lengthHigh
  { context with
    lengthLow := low
    lengthHigh := high
    -- the message is too long
    corrupted := context.corrupted || (low == 0 && high == 0) }

def processFull (context : Sha1Context) : Sha1Context :=
  if context.messageBlockIndex = 64 then context.processMessageBlock else context

/-- The loop of `SHA1Input`, as long as the length is not zero. -/
def inputLoop : Bytes → Nat → Sha1Context → Option Sha1Context
  | _, 0, context => some context
  | message, length + 1, context =>
    if context.corrupted then some context
    else
      match message with
      | [] => none
      | octet :: message => do
        let context ← context.put octet
        inputLoop message length context.count.processFull

end Sha1Context

def sha1Input (context : Sha1Context) (message : Bytes) (length : UInt32) : Option Sha1Context :=
  if length = 0 then some context
  else if context.computed || context.corrupted then some { context with corrupted := true }
  else context.inputLoop message length.toNat

/-! ### `SHA1PadMessage` -/

namespace Sha1Context

/-- Zeros from the index on, as long as it is less than the bound; `n` turns are
enough. -/
def zeros (bound : Nat) : Nat → Sha1Context → Option Sha1Context
  | 0, context => some context
  | n + 1, context =>
    if context.messageBlockIndex < bound then do
      let context ← context.put 0
      zeros bound n context
    else some context

/-- The length of the message as the last 8 octets of the block. -/
def storeLength (context : Sha1Context) : Sha1Context :=
  let high := context.lengthHigh
  let low := context.lengthLow
  { context with
    messageBlock := context.messageBlock
      |>.set 56 (high >>> 24).toUInt8 |>.set 57 (high >>> 16).toUInt8
      |>.set 58 (high >>> 8).toUInt8 |>.set 59 high.toUInt8
      |>.set 60 (low >>> 24).toUInt8 |>.set 61 (low >>> 16).toUInt8
      |>.set 62 (low >>> 8).toUInt8 |>.set 63 low.toUInt8 }

end Sha1Context

def sha1PadMessage (context : Sha1Context) : Option Sha1Context := do
  let context ←
    -- the block is too small to hold the padding and the length
    if 55 < context.messageBlockIndex then do
      let context ← context.put 0x80
      let context ← context.zeros 64 64
      let context := context.processMessageBlock
      context.zeros 56 64
    else do
      let context ← context.put 0x80
      context.zeros 56 64
  return context.storeLength.processMessageBlock

def sha1Result (context : Sha1Context) : Option (Bool × Sha1Context) :=
  if context.corrupted then some (false, context)
  else if context.computed then some (true, context)
  else do
    let context ← sha1PadMessage context
    return (true, { context with computed := true })

/-! ### Calls -/

inductive Sha1Call
  /-- `SHA1Input` with an array and its length. -/
  | input (message : Bytes) (length_lt : message.length < 2 ^ 32)
  | result

/-- The calls one after the other, from the context on: for each `SHA1Result` the
digest, if it returned 1. -/
def sha1Calls (context : Sha1Context) : List Sha1Call → Option (List (Option Sha1Words))
  | [] => some []
  | .input message _ :: calls => do
    let context ← sha1Input context message (UInt32.ofNat message.length)
    sha1Calls context calls
  | .result :: calls => do
    let (ok, context) ← sha1Result context
    let answers ← sha1Calls context calls
    return (if ok then some context.messageDigest else none) :: answers

end SrRouter
