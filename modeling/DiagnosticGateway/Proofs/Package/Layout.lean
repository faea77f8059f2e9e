/-
Module: DiagnosticGateway.Proofs.Package.Layout
Purpose: Which bytes of a package header hold which field, and that nothing of a header is lost.
Main exports:
  Octets.Tiles, Octets.Tiles.stands, PackageHeader.layout, PackageHeader.tiles_layout,
  header_codec_lossless
-/
import DiagnosticGateway.Proofs.Package.RoundTrip

/-!
The fields of a header fill its sixty-four bytes without a gap and without sharing a byte.  So a
header can be read from any sixty-four bytes, is written with the same bytes again, and each of its
fields stands where its place in the format is.
-/

namespace DiagnosticGateway

open Octets

namespace Octets

/-- Fields lie one behind the other: each is given with the place of its first byte, the first
begins at `start`, and the last ends in front of `stop`. -/
inductive Tiles : Nat → List (Nat × Octets) → Nat → Prop where
  | nil (place : Nat) : Tiles place [] place
  | cons {start stop : Nat} {fields : List (Nat × Octets)} (field : Octets)
      (others : Tiles (start + field.length) fields stop) :
      Tiles start ((start, field) :: fields) stop

namespace Tiles

variable {start stop : Nat} {fields : List (Nat × Octets)}

/-- Each field stands at its place in the bytes that the fields make together, whatever stands
before and behind them. -/
theorem stands (tiles : Tiles start fields stop) {before : Octets}
    (place : before.length = start) (rest : Octets) :
    ∀ field ∈ fields,
      ((before ++ (fields.flatMap Prod.snd ++ rest)).drop field.1).take field.2.length =
        field.2 := by
  induction tiles generalizing before with
  | nil place => exact nofun
  | @cons start stop fields first others inductionHypothesis =>
      intro field member
      rcases List.mem_cons.mp member with rfl | later
      · rw [List.drop_left' place, List.flatMap_cons, List.append_assoc, List.take_left' rfl]
      · have behind : (before ++ first).length = start + first.length := by
          rw [List.length_append, place]
        have found := inductionHypothesis behind field later
        rw [List.append_assoc] at found
        rw [List.flatMap_cons, List.append_assoc]
        exact found

end Tiles

end Octets

/-! ## Kinds -/

/-- A kind of software is the meaning of its own code, unless an assigned code hides behind
`unassigned`. -/
theorem SoftwareType.ofCode_code_of_named {softwareType : SoftwareType}
    (named : ∀ code, softwareType = .unassigned code → code ∉ [0x01, 0x02, 0x03, 0x04]) :
    ofCode softwareType.code = softwareType := by
  cases softwareType with
  | application => rfl
  | bootloader => rfl
  | calibration => rfl
  | configuration => rfl
  | unassigned code =>
      have other := named code rfl
      show ofCode code = .unassigned code
      unfold ofCode
      split <;> simp_all

/-- So is a kind of packing. -/
theorem Compression.ofCode_code_of_named {compression : Compression}
    (named : ∀ code, compression = .unassigned code → code ∉ [0x00, 0x01]) :
    ofCode compression.code = compression := by
  cases compression with
  | none => rfl
  | gzip => rfl
  | unassigned code =>
      have other := named code rfl
      show ofCode code = .unassigned code
      unfold ofCode
      split <;> simp_all

namespace PackageHeader

variable {header : PackageHeader}

/-! ## Fields -/

/-- The fields of a header, each with the place of its first byte. -/
def layout (header : PackageHeader) : List (Nat × Octets) :=
  [(0, ofWord32 header.magic),
    (4, ofWord16 header.target),
    (6, [header.softwareType.code]),
    (7, [header.compression.code]),
    (8, ofWord32 header.payloadSize),
    (12, ofWord32 header.uncompressedSize),
    (16, [header.version.major]),
    (17, [header.version.minor]),
    (18, [header.version.patch]),
    (19, [header.version.build]),
    (20, ofWord32 header.versionTimestamp),
    (24, ofWord32 header.versionSerial),
    (28, ofWord32 header.payloadChecksum),
    (32, ofWord32 header.signature.1),
    (36, ofWord32 header.signature.2.1),
    (40, ofWord32 header.signature.2.2),
    (44, ofWord16 header.source),
    (46, ofWord16 header.hopCount),
    (48, ofWord32 header.sequenceNumber),
    (52, header.reserved.val)]

/-- The fields fill the sixty-four bytes. -/
theorem tiles_layout (header : PackageHeader) : Tiles 0 header.layout 64 := by
  have last : Tiles 52 [(52, header.reserved.val)] 64 := by
    have reserved : Tiles 52 [(52, header.reserved.val)] (52 + header.reserved.val.length) :=
      .cons _ (.nil _)
    rwa [header.reserved.property] at reserved
  unfold layout
  iterate 19 refine .cons _ ?_
  exact last

theorem toOctets_eq_layout (header : PackageHeader) :
    header.toOctets = header.layout.flatMap Prod.snd := by
  simp [toOctets, layout]

/-- A header that was read has each of its fields at its place in the package. -/
theorem stands_of_parse {package : Octets} (parsed : parse package = .ok header) :
    ∀ field ∈ header.layout, (package.drop field.1).take field.2.length = field.2 := by
  obtain ⟨-, rest, rfl⟩ := parse_eq_ok_iff.mp parsed
  have nothing : ([] : Octets).length = 0 := rfl
  intro field member
  have stands := header.tiles_layout.stands nothing rest field member
  rwa [List.nil_append, ← toOctets_eq_layout] at stands

/-- Sixty-four bytes are a header, which is written with the same bytes again. -/
theorem exists_parse_of_long {package : Octets} (long : 64 ≤ package.length) :
    ∃ header, parse package = .ok header ∧ header.toOctets = package.take 64 := by
  obtain ⟨header, -, parsed⟩ := exists_parse long
  obtain ⟨-, rest, rfl⟩ := parse_eq_ok_iff.mp parsed
  exact ⟨header, parsed, (List.take_left' header.length_toOctets).symm⟩

end PackageHeader

/-- Nothing of a header is lost in its bytes, and nothing of the bytes in the header.  Whatever
stands in the first sixty-four bytes of a package is a header that is written with these bytes again.
A header is read from its own bytes, whatever follows them, unless it has an assigned code for an
unassigned one.  Fewer bytes hold no header.  The fields fill the header without a gap, and each
stands at its place. -/
theorem header_codec_lossless :
    (∀ package : Octets, 64 ≤ package.length →
      ∃ header, PackageHeader.parse package = .ok header ∧ header.toOctets = package.take 64) ∧
    (∀ (header : PackageHeader) (rest : Octets),
      (∀ code, header.softwareType = .unassigned code → code ∉ [0x01, 0x02, 0x03, 0x04]) →
      (∀ code, header.compression = .unassigned code → code ∉ [0x00, 0x01]) →
      PackageHeader.parse (header.toOctets ++ rest) = .ok header) ∧
    (∀ package : Octets, package.length < 64 →
      PackageHeader.parse package = .error (.tooSmall package.length)) ∧
    ∀ header : PackageHeader, Tiles 0 header.layout 64 ∧
      ∀ package, PackageHeader.parse package = .ok header →
        ∀ field ∈ header.layout, (package.drop field.1).take field.2.length = field.2 := by
  refine ⟨?written, ?read, ?short, ?places⟩
  case written =>
    intro package long
    exact PackageHeader.exists_parse_of_long long
  case read =>
    intro header rest softwareType compression
    have canonical : header.IsCanonical :=
      ⟨SoftwareType.ofCode_code_of_named softwareType,
        Compression.ofCode_code_of_named compression⟩
    exact PackageHeader.parse_eq_ok_iff.mpr ⟨canonical, rest, rfl⟩
  case short =>
    intro package short
    exact PackageHeader.parse_of_short short
  case places =>
    intro header
    exact ⟨header.tiles_layout, fun package parsed => PackageHeader.stands_of_parse parsed⟩

/-- A header with a hop count and a signature, and a kind of software that has no name. -/
def sampleSignedHeader : PackageHeader :=
  { sampleZoneHeader with
    softwareType := .unassigned 0x05
    signature := (1, 0x0A0B0C0D, 3)
    hopCount := 0x0102 }

/-- The header is read from its bytes with a byte behind them, the hop count from the bytes in its
place.  Sixty-five zeros are a header, too, and sixty-three are none. -/
theorem header_codec_lossless_sample :
    PackageHeader.parse (sampleSignedHeader.toOctets ++ [0xAA]) = .ok sampleSignedHeader ∧
      ((sampleSignedHeader.toOctets ++ [0xAA]).drop 46).take 2 = [0x01, 0x02] ∧
      (∃ header, PackageHeader.parse (List.replicate 65 0) = .ok header ∧
        header.toOctets = List.replicate 64 0) ∧
      PackageHeader.parse (List.replicate 63 0) = .error (.tooSmall 63) := by
  obtain ⟨written, read, short, places⟩ := header_codec_lossless
  have parsed := read sampleSignedHeader [0xAA] (by rintro code ⟨⟩; decide) (by rintro code ⟨⟩)
  have hopCount := (places sampleSignedHeader).2 _ parsed (46, [0x01, 0x02]) (by decide)
  exact ⟨parsed, hopCount, written (List.replicate 65 0) (by decide),
    short (List.replicate 63 0) (by decide)⟩

end DiagnosticGateway
