import Librtcdc.Sync.Receiving
import Librtcdc.Sync.Transfer

set_option autoImplicit false

namespace Librtcdc.Sync

open Systems Received

-- The cast of a message to `struct sctp_packet_t`, `none` when it has another size.
def packetOf (data : Bytes) : Option SctpPacket :=
  if data.length = packetSize then
    some
      { index := intAt data 0
        buf := (data.drop bufOffset).take sctpBufSize
        bufLen := intAt data bufLenOffset }
  else
    none

theorem packetOf_packetBytes {packet : SctpPacket} (packed : Packed packet) :
    packetOf (packetBytes packet) = some packet := by
  have memory : (ofPacket packet).memory = packetBytes packet := List.append_nil _
  have index : intAt (packetBytes packet) 0 = packet.index := by
    rw [← memory]
    exact ofPacket_index packed
  have buf : (packetBytes packet).drop bufOffset = packet.buf ++ intBytes packet.bufLen := by
    rw [← memory]
    exact ofPacket_buf packet
  have bufLen : intAt (packetBytes packet) bufLenOffset = packet.bufLen := by
    rw [← memory]
    exact ofPacket_bufLen packed
  have whole : (packet.buf ++ intBytes packet.bufLen).take sctpBufSize = packet.buf :=
    List.take_left' packed.size
  have size : (packetBytes packet).length = packetSize := ofPacket_length packed
  rw [packetOf, if_pos size, index, buf, bufLen, whole]

theorem zeroPadded_length {size : Nat} {text : Bytes} (fits : text.length ≤ size) :
    (zeroPadded size text).length = size := by
  rw [zeroPadded, List.length_append, List.length_replicate]
  omega

theorem int32_int32 (n : Int) : int32 (int32 n) = int32 n := by
  unfold int32
  omega

theorem namePacket_packed {filename : Bytes} (fits : filename.length ≤ sctpBufSize) :
    Packed (namePacket filename) where
  index := rfl
  size := zeroPadded_length fits
  bufLen := ⟨Int.le_refl 0, Int.natCast_nonneg _⟩

theorem endPacket_packed : Packed endPacket where
  index := rfl
  size := zeroPadded_length (Nat.zero_le _)
  bufLen := ⟨Int.le_refl 0, Int.natCast_nonneg _⟩

theorem piecePacket_packed {index : Int} {piece : Bytes} (fits : piece.length ≤ sctpBufSize) :
    Packed (piecePacket (int32 index) piece) where
  index := int32_int32 index
  size := zeroPadded_length fits
  bufLen := by
    have short : (cText (zeroPadded sctpBufSize piece)).length ≤ sctpBufSize := by
      rw [cText_zeroPadded]
      exact (cText_length_le piece).trans fits
    exact ⟨Int.natCast_nonneg _, Int.ofNat_le.mpr short⟩

theorem takeLine_length (n : Nat) (content : Bytes) : (takeLine n content).length ≤ n := by
  induction content generalizing n with
  | nil => simp
  | cons b rest ih =>
      cases n with
      | zero => exact Nat.le_refl 0
      | succ n =>
          rw [takeLine]
          split_ifs
          · simp
          · exact Nat.succ_le_succ (ih n)

theorem sendPieces_packed (index : Int) (pFile : Stream) :
    ∀ packet ∈ sendPieces index pFile, Packed packet := by
  induction length : pFile.rest.length using Nat.strong_induction_on generalizing index pFile with
  | _ bound ih =>
      subst length
      intro packet member
      unfold sendPieces at member
      split_ifs at member
      · cases member
      · split at member
        · cases member
        · rename_i piece next got
          obtain ⟨line, _, _⟩ := fgets_some got
          rcases List.mem_cons.mp member with rfl | later
          · refine piecePacket_packed ?_
            rw [line]
            exact (takeLine_length _ _).trans (by decide)
          · exact ih _ (fgets_shorter got) _ _ rfl packet later

theorem send_packed {d : Direction} {files : Files} {repo : Bytes} {diff : List DiffInfo}
    {packets : List SctpPacket} (made : d.send files repo diff = some packets) :
    ∀ packet ∈ packets, Packed packet := by
  rw [d.send_eq] at made
  induction diff generalizing packets with
  | nil =>
      obtain rfl := Option.some.inj made
      exact fun _ member => absurd member List.not_mem_nil
  | cons file rest ih =>
      rw [sendDiff] at made
      split at made
      · cases made
      · rename_i path fits
        obtain ⟨later, made_later, rfl⟩ := Option.map_eq_some_iff.mp made
        intro packet member
        rcases List.mem_append.mp member with here | there
        · split_ifs at here
          · split at here
            · cases here
            · rename_i content _
              have short : file.filename.val.length ≤ sctpBufSize := by
                unfold localFilePath at fits
                split_ifs at fits with room
                unfold localPathSize at room
                unfold sctpBufSize
                omega
              rw [sendFile, List.mem_append, List.mem_cons, List.mem_singleton] at here
              rcases here with (rfl | piece) | rfl
              · exact namePacket_packed short
              · exact sendPieces_packed _ _ packet piece
              · exact endPacket_packed
          · cases here
        · exact ih made_later packet there

end Librtcdc.Sync
