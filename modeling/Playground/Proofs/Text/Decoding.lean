import Playground.Proofs.Text.Bytes

/-! Texts and the bytes they are encoded in. The first byte of a character tells how many follow and
what the next one may be; each that follows adds six bits. Main statement: encoded text is decoded to
its own characters. -/
namespace Playground.Text
namespace Decoder

/- The first byte of a character of several bytes: how many are missing, and in which range the
next one lies. -/
inductive Leads : Nat → Nat → Nat → Nat → Nat → Prop
  | two {n} (least : 0xc2 ≤ n) (below : n < 0xe0) : Leads n 1 0x80 0xbf (n % 32)
  | three {n} (least : 0xe1 ≤ n) (below : n < 0xf0) (other : n ≠ 0xed) : Leads n 2 0x80 0xbf (n % 16)
  | threeFirst : Leads 0xe0 2 0xa0 0xbf 0
  | threeBeforeGap : Leads 0xed 2 0x80 0x9f 13
  | four {n} (least : 0xf1 ≤ n) (below : n < 0xf4) : Leads n 3 0x80 0xbf (n % 8)
  | fourFirst : Leads 0xf0 3 0x90 0xbf 0
  | fourLast : Leads 0xf4 3 0x80 0x8f 4

theorem startLeads {b : UInt8} {missing low high code : Nat} (leads : Leads b.toNat missing low high code)
    (d : Decoder) : d.start b = { pending := [b], missing, low, high, code, decoded := d.decoded } := by
  unfold start
  generalize b.toNat = n at leads
  cases leads with
  | two least below => simp only [show ¬ n < 0x80 by omega,show ¬ n < 0xc2 by omega,below,if_true,if_false]
  | three least below other =>
    simp only [show ¬ n < 0x80 by omega,show ¬ n < 0xc2 by omega,show ¬ n < 0xe0 by omega,
      show ¬ n = 0xe0 by omega,other,below,if_true,if_false]
  | threeFirst => rfl
  | threeBeforeGap => rfl
  | four least below =>
    simp only [show ¬ n < 0x80 by omega,show ¬ n < 0xc2 by omega,show ¬ n < 0xe0 by omega,show ¬ n = 0xe0 by omega,
      show ¬ n = 0xed by omega,show ¬ n < 0xf0 by omega,show ¬ n = 0xf0 by omega,below,if_true,if_false]
  | fourFirst => rfl
  | fourLast => rfl

theorem stepInner {d : Decoder} {b : UInt8} (more : 1 < d.missing) (low : d.low ≤ b.toNat) (high : b.toNat ≤ d.high) :
    d.step b = { pending := b :: d.pending, missing := d.missing - 1, code := d.code * 64 + b.toNat % 64,
                 decoded := d.decoded } := by
  unfold step
  rw [if_neg (by omega),if_pos ⟨low,high⟩]
  exact if_neg (by omega)

theorem stepLast {d : Decoder} {b : UInt8} (one : d.missing = 1) (low : d.low ≤ b.toNat) (high : b.toNat ≤ d.high) :
    d.step b = { decoded := .char (Char.ofNat (d.code * 64 + b.toNat % 64)) :: d.decoded } := by
  unfold step
  rw [if_neg (by omega),if_pos ⟨low,high⟩]
  exact if_pos one

def Follows (b : UInt8) : Prop := 0x80 ≤ b.toNat ∧ b.toNat ≤ 0xbf

section
variable {a b : UInt8} {low high code : Nat} (above : low ≤ b.toNat) (below : b.toNat ≤ high)
include above below

theorem twoDecoded (leads : Leads a.toNat 1 low high code) (decoded : List Glyph) :
    [a,b].foldl step { decoded } = { decoded := .char (Char.ofNat (code * 64 + b.toNat % 64)) :: decoded } := by
  show step (start { decoded } a) b = _
  rw [startLeads leads,stepLast rfl above below]

theorem threeDecoded (leads : Leads a.toNat 2 low high code) {c : UInt8} (third : Follows c) (decoded : List Glyph) :
    [a,b,c].foldl step { decoded } =
      { decoded := .char (Char.ofNat ((code * 64 + b.toNat % 64) * 64 + c.toNat % 64)) :: decoded } := by
  have second := (congrArg (step · b) (startLeads leads { decoded })).trans (stepInner (by decide : 1 < 2) above below)
  show step (step (start { decoded } a) b) c = _
  rw [second,stepLast rfl third.1 third.2]

theorem fourDecoded (leads : Leads a.toNat 3 low high code) {c d : UInt8} (third : Follows c) (fourth : Follows d)
    (decoded : List Glyph) :
    [a,b,c,d].foldl step { decoded } = { decoded := .char (Char.ofNat
      (((code * 64 + b.toNat % 64) * 64 + c.toNat % 64) * 64 + d.toNat % 64)) :: decoded } := by
  have second := (congrArg (step · b) (startLeads leads { decoded })).trans (stepInner (by decide : 1 < 3) above below)
  have next := (congrArg (step · c) second).trans (stepInner (by decide : 1 < 2) third.1 third.2)
  show step (step (step (start { decoded } a) b) c) d = _
  rw [next,stepLast rfl fourth.1 fourth.2]

end

theorem leadsTwo {v : Nat} (least : 0x80 ≤ v) (most : v < 0x800) : Leads (v / 64 % 32 + 192) 1 0x80 0xbf (v / 64) := by
  have leads : Leads (v / 64 % 32 + 192) 1 0x80 0xbf ((v / 64 % 32 + 192) % 32) := .two (by omega) (by omega)
  rwa [show (v / 64 % 32 + 192) % 32 = v / 64 by omega] at leads

theorem leadsThree {v : Nat} (least : 0x800 ≤ v) (most : v < 0x10000) (valid : v < 0xd800 ∨ 0xdfff < v) :
    ∃ low high, Leads (v / 4096 % 16 + 224) 2 low high (v / 4096) ∧
      low ≤ v / 64 % 64 + 128 ∧ v / 64 % 64 + 128 ≤ high := by
  by_cases first : v < 0x1000
  · rw [show v / 4096 = 0 by omega]
    exact ⟨0xa0,0xbf,.threeFirst,by omega,by omega⟩
  by_cases gap : v / 4096 = 13
  · rw [gap]
    exact ⟨0x80,0x9f,.threeBeforeGap,by omega,by omega⟩
  · have leads : Leads (v / 4096 % 16 + 224) 2 0x80 0xbf ((v / 4096 % 16 + 224) % 16) :=
      .three (by omega) (by omega) (by omega)
    rw [show (v / 4096 % 16 + 224) % 16 = v / 4096 by omega] at leads
    exact ⟨0x80,0xbf,leads,by omega,by omega⟩

theorem leadsFour {v : Nat} (least : 0x10000 ≤ v) (most : v < 0x110000) :
    ∃ low high, Leads (v / 262144 % 8 + 240) 3 low high (v / 262144) ∧
      low ≤ v / 4096 % 64 + 128 ∧ v / 4096 % 64 + 128 ≤ high := by
  by_cases first : v < 0x40000
  · rw [show v / 262144 = 0 by omega]
    exact ⟨0x90,0xbf,.fourFirst,by omega,by omega⟩
  by_cases last : 0x100000 ≤ v
  · rw [show v / 262144 = 4 by omega]
    exact ⟨0x80,0x8f,.fourLast,by omega,by omega⟩
  · have leads : Leads (v / 262144 % 8 + 240) 3 0x80 0xbf ((v / 262144 % 8 + 240) % 8) := .four (by omega) (by omega)
    rw [show (v / 262144 % 8 + 240) % 8 = v / 262144 by omega] at leads
    exact ⟨0x80,0xbf,leads,by omega,by omega⟩

theorem tailValue (n : Nat) : (UInt8.ofNat (n % 64 + 128)).toNat = n % 64 + 128 := byteValue (by omega)

theorem tailFollows (n : Nat) : Follows (UInt8.ofNat (n % 64 + 128)) := by
  unfold Follows
  rw [tailValue]
  omega

end Decoder
open Decoder

theorem charDecoded (c : Char) (decoded : List Glyph) :
    (String.utf8EncodeChar c).foldl Decoder.step { decoded } = { decoded := .char c :: decoded } := by
  have valid : c.val.toNat < 0xd800 ∨ 0xdfff < c.val.toNat ∧ c.val.toNat < 0x110000 := c.valid
  have back : Char.ofNat c.val.toNat = c := Char.ofNat_toNat c
  unfold String.utf8EncodeChar
  generalize c.val.toNat = v at valid back
  subst back
  dsimp only
  split
  · have value : (UInt8.ofNat v).toNat = v := byteValue (by omega)
    show start { decoded } (UInt8.ofNat v) = _
    unfold start
    rw [value]
    exact if_pos (by omega)
  split
  · have value : (UInt8.ofNat (v / 64 % 32 + 192)).toNat = v / 64 % 32 + 192 := byteValue (by omega)
    have leads := leadsTwo (v := v) (by omega) (by omega)
    have code : v / 64 * 64 + (v % 64 + 128) % 64 = v := by omega
    rw [← value] at leads
    obtain ⟨above,below⟩ := tailFollows v
    rw [twoDecoded above below leads,tailValue,code]
  split
  · have value : (UInt8.ofNat (v / 4096 % 16 + 224)).toNat = v / 4096 % 16 + 224 := byteValue (by omega)
    obtain ⟨low,high,leads,above,below⟩ := leadsThree (v := v) (by omega) (by omega) (by omega)
    have code : (v / 4096 * 64 + (v / 64 % 64 + 128) % 64) * 64 + (v % 64 + 128) % 64 = v := by omega
    rw [← value] at leads
    rw [← tailValue] at above below
    rw [threeDecoded above below leads (tailFollows v),tailValue,tailValue,code]
  · have value : (UInt8.ofNat (v / 262144 % 8 + 240)).toNat = v / 262144 % 8 + 240 := byteValue (by omega)
    obtain ⟨low,high,leads,above,below⟩ := leadsFour (v := v) (by omega) (by omega)
    have code : ((v / 262144 * 64 + (v / 4096 % 64 + 128) % 64) * 64 + (v / 64 % 64 + 128) % 64) * 64 +
        (v % 64 + 128) % 64 = v := by omega
    rw [← value] at leads
    rw [← tailValue] at above below
    rw [fourDecoded above below leads (tailFollows _) (tailFollows v),tailValue,tailValue,tailValue,code]

theorem encodedDecoded (text : List Char) : decode (encoded text) = glyphs text := by
  have collected : ∀ decoded, (encoded text).foldl Decoder.step { decoded } =
      { decoded := (glyphs text).reverse ++ decoded } := by
    induction text with
    | nil => exact fun _ => rfl
    | cons c text ih =>
      intro decoded
      have next : (encoded text).foldl Decoder.step { decoded := .char c :: decoded } = _ := ih _
      rw [encoded,List.flatMap_cons,List.foldl_append,charDecoded]
      refine next.trans ?_
      simp [glyphs]
  simp only [decode,collected,giveUp]
  simp

end Playground.Text
