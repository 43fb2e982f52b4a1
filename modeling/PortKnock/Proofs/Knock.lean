import PortKnock.Knock
import PortKnock.Proofs.Headers

/-!
# Records and lines of knocks

A knock comes back from its record (`decode?_encode`), and the line that reports
a knock can be told from the record (`line_of_decode?`) and from the frame alone
(`line_knockOf`): three octet orders on the way cancel out.
-/

namespace PortKnock

open Octets

namespace Knock

theorem length_encode (knock : Knock) : knock.encode.length = recordSize := by
  simp [encode, portOctets, reservedOctets, recordSize]

theorem decode?_encode (knock : Knock) : decode? knock.encode = some knock := by
  obtain ⟨source, port, reserved⟩ := knock
  have hsource : UInt32.ofNat (toNatLE (ofNatLE 4 source.toNat)) = source := by
    have hlt : source.toNat < 256 ^ 4 := source.toNat_lt
    rw [toNatLE_ofNatLE, Nat.mod_eq_of_lt hlt, UInt32.ofNat_toNat]
  have hnumber (number : UInt16) : UInt16.ofNat (toNatBE (ofNatBE 2 number.toNat)) = number := by
    have hlt : number.toNat < 256 ^ 2 := number.toNat_lt
    rw [toNatBE_ofNatBE, Nat.mod_eq_of_lt hlt, UInt16.ofNat_toNat]
  calc
    decode? (encode ⟨source, port, reserved⟩) = some {
        source := UInt32.ofNat (toNatLE (ofNatLE 4 source.toNat))
        port := UInt16.ofNat (toNatBE (ofNatBE 2 port.toNat))
        reserved := UInt16.ofNat (toNatBE (ofNatBE 2 reserved.toNat)) } := rfl
    _ = some ⟨source, port, reserved⟩ := by rw [hsource, hnumber, hnumber]

/-- Records are told by their length alone. -/
theorem decode?_isSome_iff {record : List UInt8} :
    (decode? record).isSome = true ↔ record.length = recordSize := by
  constructor
  · intro hsome
    unfold decode? at hsome
    split at hsome
    · rfl
    · cases hsome
  · intro hlength
    match record, hlength with
    | [_, _, _, _, _, _, _, _], _ => rfl

/-- The octets of an address in dotted decimal. -/
theorem dotted_longAt {octets : List UInt8} {offset : Nat} (hoffset : offset + 4 ≤ octets.length) :
    Ipv4.dotted (longAt octets offset) =
      toString (octetAt octets offset).toNat ++ "." ++
        toString (octetAt octets (offset + 1)).toNat ++ "." ++
        toString (octetAt octets (offset + 2)).toNat ++ "." ++
        toString (octetAt octets (offset + 3)).toNat := by
  rw [Ipv4.dotted, ofNatBE_longAt hoffset, octetsAt_four hoffset]
  rfl

/-- The line of a record: the address from its fourth octet back to the first one, the port from
its fifth octet on.  The octets that fill the record up are not looked at. -/
def recordLine (record : List UInt8) : String :=
  toString (octetAt record 3).toNat ++ "." ++ toString (octetAt record 2).toNat ++ "." ++
    toString (octetAt record 1).toNat ++ "." ++ toString (octetAt record 0).toNat ++ "," ++
    toString (256 * (octetAt record 4).toNat + (octetAt record 5).toNat) ++ "\n"

/-- Four octets are a number of 32 bits. -/
theorem toNat_ofNat_toNatLE (a b c d : UInt8) :
    (UInt32.ofNat (toNatLE [a, b, c, d])).toNat = toNatLE [a, b, c, d] := by
  have hlt : toNatLE [a, b, c, d] < 2 ^ 32 := by simpa using toNatLE_lt [a, b, c, d]
  rw [UInt32.toNat_ofNat', Nat.mod_eq_of_lt hlt]

/-- Two octets are a number of 16 bits. -/
theorem toNat_ofNat_toNatBE (p q : UInt8) :
    (UInt16.ofNat (toNatBE [p, q])).toNat = toNatBE [p, q] := by
  have hlt : toNatBE [p, q] < 2 ^ 16 := by simpa using toNatBE_lt [p, q]
  rw [UInt16.toNat_ofNat', Nat.mod_eq_of_lt hlt]

theorem toNatBE_pair (p q : UInt8) : toNatBE [p, q] = 256 * p.toNat + q.toNat := by
  simp only [toNatBE, List.reverse_cons, List.reverse_nil, List.nil_append, List.cons_append,
    toNatLE]
  omega

/-- An address that was stored least significant octet first. -/
theorem ofNatBE_ofNat_toNatLE (a b c d : UInt8) :
    ofNatBE 4 (UInt32.ofNat (toNatLE [a, b, c, d])).toNat = [d, c, b, a] := by
  have hback : ofNatLE 4 (toNatLE [a, b, c, d]) = [a, b, c, d] := ofNatLE_toNatLE [a, b, c, d]
  rw [toNat_ofNat_toNatLE, ofNatBE, hback]
  rfl

theorem line_of_decode? {record : List UInt8} {knock : Knock}
    (hdecode : decode? record = some knock) : knock.line = recordLine record := by
  unfold decode? at hdecode
  split at hdecode
  · cases hdecode
    rw [line, Ipv4.dotted, ofNatBE_ofNat_toNatLE, toNat_ofNat_toNatBE, toNatBE_pair]
    rfl
  · cases hdecode

/-- The line of a knock, as it can be told from the frame. -/
def frameLine (frame : List UInt8) : String :=
  toString (octetAt frame 26).toNat ++ "." ++ toString (octetAt frame 27).toNat ++ "." ++
    toString (octetAt frame 28).toNat ++ "." ++ toString (octetAt frame 29).toNat ++ "," ++
    toString (256 * (octetAt frame 36).toNat + (octetAt frame 37).toNat) ++ "\n"

theorem line_knockOf {frame : List UInt8} (hlength : 42 ≤ frame.length) :
    (knockOf frame).line = frameLine frame := by
  rw [line, knockOf, dotted_longAt (by omega), toNat_wordAt (by omega)]
  rfl

end Knock

end PortKnock
