import Banjax.Lib.Multipart
import Banjax.Token.CookieHash
import Banjax.Transaction.BotSniffer

/-!
# The lines of the sniffer on the wire

`send_zmq_encrypted_message` of `util.cpp`, write by write into its buffer, and the parts that
`BotSniffer::on_http_close` sends over the socket.  AES-256 in Galois/counter mode is a
parameter.

A line is sent as `|IV|Cipher Text|TAG|`, after a part that says what it is.  A reader with the
key finds the texts of every record again, one record for each line and in their order, and an
exception in the middle of a line leaves nothing that is delivered (`records_received`).
-/

namespace Banjax

open Lib

/-! ## The encrypted message -/

/-- `c_gcm_iv_size`. -/
def gcmIvSize : Nat := 12

/-- `c_gcm_tag_size`. -/
def gcmTagSize : Nat := 16

/-- `c_cipher_block_size`. -/
def cipherBlockSize : Nat := 16

/-- `c_max_enc_length`. -/
def maxEncLength : Nat := 2 ^ 31 - 1

/-- AES-256 in Galois/counter mode: the cipher text with its tag, and the way back. -/
structure Gcm where
  encrypt : Vector UInt8 32 → Vector UInt8 gcmIvSize → Bytes → Bytes × Vector UInt8 gcmTagSize
  decrypt : Vector UInt8 32 → Vector UInt8 gcmIvSize → Bytes → Vector UInt8 gcmTagSize →
    Option Bytes

/-- The mode keeps the length of a text, and a reader with the key finds the text again. -/
structure Gcm.Lawful (G : Gcm) : Prop where
  length : ∀ key iv plaintext, plaintext.length ≤ maxEncLength →
    (G.encrypt key iv plaintext).1.length = plaintext.length
  decrypt_encrypt : ∀ key iv plaintext, plaintext.length ≤ maxEncLength →
    G.decrypt key iv (G.encrypt key iv plaintext).1 (G.encrypt key iv plaintext).2 =
      some plaintext

/-- What the encryption of a message meets. -/
structure Sealing where
  /-- What `RAND_bytes` gives. -/
  iv : Option (Vector UInt8 gcmIvSize)
  /-- The calls of OpenSSL in `gcm_encrypt` succeed. -/
  evp : Bool
  /-- What the buffer holds at first. -/
  residue : Nat → UInt8

/-- What leaves `on_http_close`. -/
inductive WireError where
  | close (error : CloseError)
  | encryptionException
  | outOfBounds
deriving DecidableEq

/-- `memcpy` into the buffer. -/
def memcpy (buffer : Bytes) (pos : Nat) (block : Bytes) : Except WireError Bytes :=
  match overwrite buffer pos block with
  | some buffer => .ok buffer
  | none => .error .outOfBounds

/-- `send_zmq_encrypted_message`: the part that is sent. -/
def sendZmqEncryptedMessage (G : Gcm) (encryptionKey : Vector UInt8 32) (x : Sealing)
    (mess : Bytes) : Except WireError Bytes :=
  let encLength := mess.length + cipherBlockSize - 1
  let encOut := (List.range (gcmIvSize + encLength + gcmTagSize)).map x.residue
  match x.iv with
  | none => .error .encryptionException
  | some iv => do
      let encOut ← memcpy encOut 0 iv.toList
      -- `gcm_encrypt` reads the IV out of the buffer.
      if !x.evp then .error .encryptionException
      else
        let (ciphertext, gcmTag) := G.encrypt encryptionKey iv mess
        let encOut ← memcpy encOut gcmIvSize ciphertext
        let encLength := ciphertext.length
        if encLength < mess.length || maxEncLength < encLength then .error .encryptionException
        else
          let encOut ← memcpy encOut (gcmIvSize + encLength) gcmTag.toList
          let encMessageSize := gcmIvSize + encLength + gcmTagSize
          if encOut.length < encMessageSize then .error .outOfBounds
          else .ok (encOut.take encMessageSize)

/-- `|IV|Cipher Text|TAG|`. -/
def sealed (G : Gcm) (key : Vector UInt8 32) (iv : Vector UInt8 gcmIvSize) (mess : Bytes) :
    Bytes :=
  iv.toList ++ (G.encrypt key iv mess).1 ++ (G.encrypt key iv mess).2.toList

/-- A block is copied behind what has been written. -/
theorem memcpy_front {front rest block : Bytes} {pos n : Nat} (hpos : front.length = pos)
    (hn : block.length = n) (h : n ≤ rest.length) :
    memcpy (front ++ rest) pos block = .ok (front ++ block ++ rest.drop n) := by
  subst hpos hn
  rw [memcpy, overwrite_front front rest block h]

/-- A message goes out whole, or the encryption fails.  No write is outside of the buffer, and
nothing of what it held at first is sent. -/
theorem sendZmqEncryptedMessage_eq {G : Gcm} (hG : G.Lawful) (key : Vector UInt8 32) (x : Sealing)
    {mess : Bytes} (hmess : mess.length ≤ maxEncLength) :
    sendZmqEncryptedMessage G key x mess =
      match x.iv, x.evp with
      | some iv, true => .ok (sealed G key iv mess)
      | _, _ => .error .encryptionException := by
  rw [sendZmqEncryptedMessage]
  cases hiv : x.iv with
  | none => rfl
  | some iv =>
      have hlength := hG.length key iv mess hmess
      have hiv : iv.toList.length = gcmIvSize := iv.length_toList
      have htag : (G.encrypt key iv mess).2.toList.length = gcmTagSize :=
        (G.encrypt key iv mess).2.length_toList
      dsimp only
      generalize hbuffer : (List.range _).map x.residue = buffer
      have hsize : buffer.length =
          gcmIvSize + (mess.length + cipherBlockSize - 1) + gcmTagSize := by
        rw [← hbuffer, List.length_map, List.length_range]
      have hfits : gcmIvSize + mess.length + gcmTagSize ≤ buffer.length := by
        rw [hsize, cipherBlockSize]
        omega
      have hfirst : memcpy ([] ++ buffer) 0 iv.toList =
          .ok ([] ++ iv.toList ++ buffer.drop gcmIvSize) := memcpy_front rfl hiv (by omega)
      rw [List.nil_append, List.nil_append] at hfirst
      rw [hfirst, ok_bind]
      cases x.evp with
      | false => rfl
      | true =>
          have hsecond : memcpy (iv.toList ++ buffer.drop gcmIvSize) gcmIvSize
              (G.encrypt key iv mess).1 = .ok (iv.toList ++ (G.encrypt key iv mess).1 ++
                (buffer.drop gcmIvSize).drop mess.length) :=
            memcpy_front hiv hlength (by rw [List.length_drop]; omega)
          have hthird : memcpy (iv.toList ++ (G.encrypt key iv mess).1 ++
              (buffer.drop gcmIvSize).drop mess.length) (gcmIvSize + mess.length)
                (G.encrypt key iv mess).2.toList = .ok (sealed G key iv mess ++
                  ((buffer.drop gcmIvSize).drop mess.length).drop gcmTagSize) := by
            refine memcpy_front (by rw [List.length_append, hiv, hlength]) htag ?_
            rw [List.length_drop, List.length_drop]
            omega
          have hsealed : (sealed G key iv mess).length =
              gcmIvSize + mess.length + gcmTagSize := by
            rw [sealed, List.length_append, List.length_append, hiv, hlength, htag]
          have hthrow : (decide ((G.encrypt key iv mess).1.length < mess.length) ||
              decide (maxEncLength < (G.encrypt key iv mess).1.length)) = false := by
            rw [hlength, decide_eq_false (Nat.lt_irrefl _), decide_eq_false (by omega)]
            rfl
          rw [if_neg (by decide)]
          dsimp only
          rw [hsecond, ok_bind, hthrow, hlength, if_neg Bool.false_ne_true, hthird, ok_bind,
            if_neg (by rw [List.length_append, hsealed]; omega), ← hsealed, List.take_left]

/-! ## What a reader does -/

/-- Bytes of this number. -/
def toVector (n : Nat) (block : Bytes) : Option (Vector UInt8 n) :=
  if h : block.length = n then some ⟨block.toArray, h⟩ else none

theorem toVector_toList {n : Nat} (v : Vector UInt8 n) : toVector n v.toList = some v := by
  rw [toVector, dif_pos v.length_toList]
  rfl

/-- The text of an encrypted message. -/
def openSealed (G : Gcm) (key : Vector UInt8 32) (mess : Bytes) : Option Bytes :=
  let rest := mess.drop gcmIvSize
  let size := rest.length - gcmTagSize
  match toVector gcmIvSize (mess.take gcmIvSize), toVector gcmTagSize (rest.drop size) with
  | some iv, some tag => G.decrypt key iv (rest.take size) tag
  | _, _ => none

theorem openSealed_sealed {G : Gcm} (hG : G.Lawful) (key : Vector UInt8 32)
    (iv : Vector UInt8 gcmIvSize) {mess : Bytes} (hmess : mess.length ≤ maxEncLength) :
    openSealed G key (sealed G key iv mess) = some mess := by
  have htake : (sealed G key iv mess).take gcmIvSize = iv.toList := by
    rw [sealed, List.append_assoc, List.take_left' iv.length_toList]
  have hdrop : (sealed G key iv mess).drop gcmIvSize =
      (G.encrypt key iv mess).1 ++ (G.encrypt key iv mess).2.toList := by
    rw [sealed, List.append_assoc, List.drop_left' iv.length_toList]
  have hsize : ((sealed G key iv mess).drop gcmIvSize).length - gcmTagSize =
      (G.encrypt key iv mess).1.length := by
    rw [hdrop, List.length_append, Vector.length_toList]
    omega
  rw [openSealed]
  rw [hsize, htake, hdrop, List.drop_left, List.take_left, toVector_toList, toVector_toList]
  exact hG.decrypt_encrypt key iv mess hmess

/-- The texts of a line. -/
def readRecord (line : Bytes) : Option (List Bytes) := (line.splitOn 44).mapM Base64.decode

/-- The record of a message. -/
def readLine (G : Gcm) (key : Vector UInt8 32) : List Bytes → Option (List Bytes)
  | [topic, mess] =>
      if topic = bytes "botbanger_log" then (openSealed G key mess).bind readRecord else none
  | _ => none

/-! ## Records -/

namespace TransactionMuncher

variable {m : TransactionMuncher}

/-- The text of a part in a record. -/
def textOrEmpty (m : TransactionMuncher) (p : TransactionPart) : Except CloseError Bytes :=
  if has m.curValidity p then
    match m.part p with
    | some text => .ok text
    | none => .error .outOfRange
  else .ok []

/-- What a line says about a transaction. -/
def record (m : TransactionMuncher) (timeBuffer : Bytes) : Except CloseError (List Bytes) := do
  let ip ← m.textOrEmpty .ip
  let urlWithHost ← m.textOrEmpty .urlWithHost
  let protocol ← m.textOrEmpty .protocol
  let status ← m.textOrEmpty .status
  let contentLength ← m.textOrEmpty .contentLength
  let ua ← m.textOrEmpty .ua
  return [ip, timeBuffer, urlWithHost, protocol, status, contentLength, ua,
    if (m.part .miss).isSome then bytes "HIT" else bytes "MISS"]

theorem validOrEmpty_eq (p : TransactionPart) :
    m.validOrEmpty p = (m.textOrEmpty p).map Base64.encodeText := by
  rw [validOrEmpty, textOrEmpty]
  split
  · cases m.part p <;> rfl
  · rfl

theorem hitMisStr_eq : m.hitMisStr =
    Base64.encodeText (if (m.part .miss).isSome then bytes "HIT" else bytes "MISS") := by
  rw [hitMisStr]
  split <;> rfl

end TransactionMuncher

/-- The line of a record. -/
def lineOfRecord (record : List Bytes) : Bytes :=
  List.intercalate (bytes ",") (record.map Base64.encodeText)

theorem lineOfRecord_eq (a b c d e f g h : Bytes) : lineOfRecord [a, b, c, d, e, f, g, h] =
    Base64.encodeText a ++ bytes "," ++ Base64.encodeText b ++ bytes "," ++
      Base64.encodeText c ++ bytes "," ++ Base64.encodeText d ++ bytes "," ++
      Base64.encodeText e ++ bytes "," ++ Base64.encodeText f ++ bytes "," ++
      Base64.encodeText g ++ bytes "," ++ Base64.encodeText h := by
  simp [lineOfRecord, List.intercalate]

/-- A line says what its record says. -/
theorem TransactionMuncher.plaintextLog_eq (m : TransactionMuncher) (timeBuffer : Bytes) :
    m.plaintextLog timeBuffer = (m.record timeBuffer).map lineOfRecord := by
  simp only [plaintextLog, record, validOrEmpty_eq, hitMisStr_eq, map_bind, bind_map]
  simp only [lineOfRecord_eq, pure, Except.pure, Except.map]

theorem readRecord_lineOfRecord {record : List Bytes} (h : record ≠ []) :
    readRecord (lineOfRecord record) = some record := by
  have hcomma : ∀ field ∈ record.map Base64.encodeText, (44 : UInt8) ∉ field := by
    intro field hfield
    obtain ⟨text, -, rfl⟩ := List.mem_map.mp hfield
    exact comma_notMem_encodeText text
  have hsep : bytes "," = [44] := by decide
  have hsome : record.map Base64.encodeText ≠ [] := by simpa using h
  rw [readRecord, lineOfRecord, hsep, List.splitOn_intercalate 44 hcomma hsome, List.mapM_map]
  have hdecode : ∀ text ∈ record, (Base64.decode ∘ Base64.encodeText) text = some (id text) :=
    fun text _ => Base64.decode_encodeText text
  rw [mapM_eq_some hdecode, List.map_id]

/-! ## The socket -/

/-- A close, and what the encryption of its line meets. -/
structure LineClose where
  e : Close
  m : TransactionMuncher
  sealing : Sealing

/-- The line is not longer than a message may be. -/
def LineClose.fits (c : LineClose) : Bool :=
  (c.m.plaintextLog c.e.timeBuffer).toOption.all fun log => log.length ≤ maxEncLength

/-- What a call sends. -/
def Sent.toPart (G : Gcm) (encryptionKey : Vector UInt8 32) (x : Sealing) :
    Sent → Except WireError (MessagePart Bytes)
  | message text more => .ok ⟨text, more⟩
  | encrypted plaintextLog =>
      (sendZmqEncryptedMessage G encryptionKey x plaintextLog).map (⟨·, false⟩)

/-- The calls one after the other, up to the first exception. -/
def sendParts (G : Gcm) (encryptionKey : Vector UInt8 32) (x : Sealing) :
    List Sent → List (MessagePart Bytes) × Option WireError
  | [] => ([], none)
  | sent :: rest =>
      match sent.toPart G encryptionKey x with
      | .ok part =>
          let (parts, thrown) := sendParts G encryptionKey x rest
          (part :: parts, thrown)
      | .error error => ([], some error)

/-- The sniffer and the parts that it has sent.  An exception ends the process. -/
structure SnifferLink where
  sniffer : BotSniffer
  parts : List (MessagePart Bytes) := []
  thrown : Option WireError := none
  /-- The records of the closes so far that the socket and OpenSSL let through. -/
  records : List (List Bytes) := []

/-- The record of a close, unless the lock, the socket or OpenSSL is in the way. -/
def BotSniffer.records (sniffer : BotSniffer) (c : LineClose) : List (List Bytes) :=
  if c.e.lockTry && (sniffer.socket.any fun k => k.isBound || c.e.bindTry) &&
      c.sealing.iv.isSome && c.sealing.evp then
    (c.m.record c.e.timeBuffer).toOption.toList
  else []

/-- `on_http_close`, with the parts on the wire. -/
def SnifferLink.step (G : Gcm) (encryptionKey : Vector UInt8 32) (s : SnifferLink)
    (c : LineClose) : Except WireError SnifferLink :=
  match s.thrown with
  | some error => .error error
  | none =>
      let closed := s.sniffer.onHttpClose c.e c.m
      let (parts, thrown) := sendParts G encryptionKey c.sealing closed.sent
      .ok
        { sniffer := closed.sniffer
          parts := s.parts ++ parts
          thrown := thrown.or (closed.thrown.map .close)
          records := s.records ++ s.sniffer.records c }

/-! ## What is received -/

/-- What a close sends: nothing, a part that waits for its line, or a line with its part. -/
inductive Sends (sniffer : BotSniffer) (c : LineClose) : Closed → Prop where
  | silent {closed : Closed} : closed.sent = [] → closed.thrown = none →
      sniffer.records c = [] → Sends sniffer c closed
  | broken {closed : Closed} {error : CloseError} :
      closed.sent = [.message (bytes "botbanger_log") true] → closed.thrown = some error →
      sniffer.records c = [] → Sends sniffer c closed
  | line {closed : Closed} {record : List Bytes} :
      closed.sent = [.message (bytes "botbanger_log") true, .encrypted (lineOfRecord record)] →
      closed.thrown = none → c.m.record c.e.timeBuffer = .ok record →
      sniffer.records c =
        (if c.sealing.iv.isSome && c.sealing.evp then [record] else []) →
      Sends sniffer c closed

theorem sends_onHttpClose (sniffer : BotSniffer) (c : LineClose) :
    Sends sniffer c (sniffer.onHttpClose c.e c.m) := by
  rw [BotSniffer.onHttpClose]
  cases hlock : c.e.lockTry with
  | false => exact .silent rfl rfl (by rw [BotSniffer.records, hlock]; rfl)
  | true =>
      cases hk : sniffer.socket with
      | none => exact .silent rfl rfl (by rw [BotSniffer.records, hlock, hk]; rfl)
      | some k =>
          have hrecords : sniffer.records c =
              if (k.isBound || c.e.bindTry) && c.sealing.iv.isSome && c.sealing.evp then
                (c.m.record c.e.timeBuffer).toOption.toList
              else [] := by
            rw [BotSniffer.records, hlock, hk, Bool.true_and, Option.any_some]
          rw [← sniffer.bound_fst] at hrecords
          dsimp only
          cases hbound : sniffer.bound c.e.bindTry k with
          | mk bound k' =>
              rw [hbound] at hrecords
              cases bound with
              | false => exact .silent rfl rfl hrecords
              | true =>
                  dsimp only at hrecords ⊢
                  rw [if_pos rfl, c.m.plaintextLog_eq]
                  rw [Bool.true_and] at hrecords
                  cases hrecord : c.m.record c.e.timeBuffer with
                  | error error =>
                      rw [hrecord] at hrecords
                      exact .broken rfl rfl (hrecords.trans (ite_self _))
                  | ok record =>
                      rw [hrecord] at hrecords
                      exact .line rfl rfl hrecord hrecords

/-- The messages that have been delivered are the records, none is unfinished, and no write went
outside of a buffer. -/
structure SnifferLink.Received (G : Gcm) (key : Vector UInt8 32) (s : SnifferLink) : Prop where
  delivered : (deliver [] s.parts).1.map (readLine G key) = s.records.map some
  finished : s.thrown = none → (deliver [] s.parts).2 = []
  inBounds : s.thrown ≠ some .outOfBounds

theorem TransactionMuncher.record_ne_nil {m : TransactionMuncher} {timeBuffer : Bytes}
    {record : List Bytes} (h : m.record timeBuffer = .ok record) : record ≠ [] := by
  obtain ⟨ip, -, h⟩ := bind_eq_ok.mp h
  obtain ⟨urlWithHost, -, h⟩ := bind_eq_ok.mp h
  obtain ⟨protocol, -, h⟩ := bind_eq_ok.mp h
  obtain ⟨status, -, h⟩ := bind_eq_ok.mp h
  obtain ⟨contentLength, -, h⟩ := bind_eq_ok.mp h
  obtain ⟨ua, -, h⟩ := bind_eq_ok.mp h
  cases h
  exact List.cons_ne_nil _ _

/-- A reader gets the record of a line. -/
theorem readLine_sealed {G : Gcm} (hG : G.Lawful) (key : Vector UInt8 32)
    (iv : Vector UInt8 gcmIvSize) {record : List Bytes} (hrecord : record ≠ [])
    (hfits : (lineOfRecord record).length ≤ maxEncLength) :
    readLine G key [bytes "botbanger_log", sealed G key iv (lineOfRecord record)] =
      some record := by
  rw [readLine, if_pos rfl, openSealed_sealed hG key iv hfits, Option.bind_some,
    readRecord_lineOfRecord hrecord]

namespace SnifferLink

variable {G : Gcm} {key : Vector UInt8 32} {s t : SnifferLink} {c : LineClose}

/-- A part that waits for its line delivers nothing. -/
theorem Received.topic (h : s.Received G key) {text : Bytes} :
    ((deliver [] (s.parts ++ [⟨text, true⟩])).1.map (readLine G key)) = s.records.map some := by
  have hwaits : ∀ part ∈ [(⟨text, true⟩ : MessagePart Bytes)], part.more = true := by simp
  rw [deliver_append, deliver_more _ hwaits, List.append_nil, h.delivered]

/-- A line is delivered with the part that waits for it. -/
theorem Received.line (h : s.Received G key) {text mess : Bytes} {record : List Bytes}
    (hline : readLine G key [text, mess] = some record) (hthrown : s.thrown = none) :
    (deliver [] (s.parts ++ [⟨text, true⟩, ⟨mess, false⟩])).1.map (readLine G key) =
        (s.records ++ [record]).map some ∧
      (deliver [] (s.parts ++ [⟨text, true⟩, ⟨mess, false⟩])).2 = [] := by
  have hwaits : ∀ part ∈ [(⟨text, true⟩ : MessagePart Bytes)], part.more = true := by simp
  have hmessage : deliver [] ([⟨text, true⟩] ++ [⟨mess, false⟩]) = ([[text, mess]], []) :=
    deliver_message hwaits rfl
  rw [List.singleton_append] at hmessage
  rw [deliver_append, h.finished hthrown, hmessage]
  refine ⟨?_, rfl⟩
  rw [List.map_append, List.map_append, h.delivered, List.map_singleton, hline,
    List.map_singleton]

theorem sendParts_line {x : Sealing} {text plaintextLog : Bytes} :
    sendParts G key x [.message text true, .encrypted plaintextLog] =
      match sendZmqEncryptedMessage G key x plaintextLog with
      | .ok mess => ([⟨text, true⟩, ⟨mess, false⟩], none)
      | .error error => ([⟨text, true⟩], some error) := by
  rw [sendParts, sendParts, Sent.toPart, Sent.toPart]
  cases sendZmqEncryptedMessage G key x plaintextLog <;> rfl

theorem Received.step (hG : G.Lawful) (h : s.Received G key) (hfits : c.fits = true)
    (hstep : s.step G key c = .ok t) : t.Received G key := by
  rw [SnifferLink.step] at hstep
  split at hstep
  · cases hstep
  · next hthrown =>
    have hsends := sends_onHttpClose s.sniffer c
    generalize s.sniffer.onHttpClose c.e c.m = closed at hsends hstep
    dsimp only at hstep
    cases hsends with
    | silent hsent hnone hrecords =>
        rw [hsent, hnone, hrecords] at hstep
        cases hstep
        refine ⟨?_, fun _ => ?_, nofun⟩
        · simpa [sendParts] using h.delivered
        · simpa [sendParts] using h.finished hthrown
    | broken hsent herror hrecords =>
        rw [hsent, herror, hrecords] at hstep
        cases hstep
        refine ⟨?_, nofun, nofun⟩
        rw [List.append_nil]
        exact h.topic
    | @line record hsent hnone hrecord hrecords =>
        have hfits : (lineOfRecord record).length ≤ maxEncLength := by
          rw [LineClose.fits, c.m.plaintextLog_eq, hrecord] at hfits
          exact of_decide_eq_true hfits
        have hpart := sendZmqEncryptedMessage_eq hG key c.sealing hfits
        rw [hsent, hnone, hrecords, sendParts_line] at hstep
        split at hpart
        · next iv hiv hevp =>
          rw [hpart, hiv, hevp] at hstep
          cases hstep
          have hline := h.line
            (readLine_sealed hG key iv (c.m.record_ne_nil hrecord) hfits) hthrown
          exact ⟨hline.1, fun _ => hline.2, nofun⟩
        · next hfails =>
          have hnot : (c.sealing.iv.isSome && c.sealing.evp) = false := by
            cases hiv : c.sealing.iv with
            | none => rfl
            | some iv =>
                cases hevp : c.sealing.evp with
                | false => rfl
                | true => exact absurd hevp (hfails iv hiv)
          rw [hpart, hnot] at hstep
          cases hstep
          refine ⟨?_, nofun, nofun⟩
          rw [if_neg Bool.false_ne_true, List.append_nil]
          exact h.topic

/-- A reader with the key gets the records of the closes, one for each line that went out and in
their order.  Until the first exception no message waits for its rest, and no write is outside of
the buffer of its message. -/
theorem records_received (hG : G.Lawful) {sniffer : BotSniffer} {closes : List LineClose}
    (h : Reaches (SnifferLink.step G key) (fun _ c => c.fits = true) { sniffer := sniffer }
      closes t) :
    (deliver [] t.parts).1.map (readLine G key) = t.records.map some ∧
      (t.thrown = none → (deliver [] t.parts).2 = []) ∧ t.thrown ≠ some .outOfBounds := by
  have hreceived : t.Received G key := by
    refine h.invariant (P := fun _ s => s.Received G key) ⟨rfl, fun _ => rfl, by rintro ⟨⟩⟩ ?_
    intro _ c s u _ ih hfits hstep
    exact ih.step hG hfits hstep
  exact ⟨hreceived.delivered, hreceived.finished, hreceived.inBounds⟩

/-! ## A run -/

/-- The sum of some bytes. -/
def checksum (text : Bytes) : UInt8 := text.foldl (· + ·) 0

/-- A byte of the key and the IV. -/
def mask (key : Vector UInt8 32) (iv : Vector UInt8 gcmIvSize) : UInt8 :=
  checksum (key.toList ++ iv.toList)

/-- A stand-in that adds the mask to the text, with the sum of the text as the tag. -/
def addingGcm : Gcm where
  encrypt key iv plaintext := (plaintext.map (· + mask key iv), .replicate _ (checksum plaintext))
  decrypt key iv ciphertext tag :=
    let plaintext := ciphertext.map (· - mask key iv)
    if tag = .replicate _ (checksum plaintext) then some plaintext else none

theorem addingGcm_lawful : addingGcm.Lawful := by
  refine ⟨fun _ _ _ _ => List.length_map _, fun key iv plaintext _ => ?_⟩
  have hback : (plaintext.map (· + mask key iv)).map (· - mask key iv) = plaintext := by
    simp [Function.comp_def]
  simp only [addingGcm, hback, if_true]

/-- A close of a transaction with an address, and a buffer that holds ones. -/
def sampleLineClose (lockTry : Bool) (iv : Option (Vector UInt8 gcmIvSize)) : LineClose where
  e := { TransactionData.sampleClose with lockTry := lockTry }
  m := (({ TransactionMuncher.create with validParts := TransactionPart.ip.flag }).set .ip
    (bytes "10.0.0.1")).updateValidityStatus
  sealing := ⟨iv, true, fun _ => 1⟩

/-- A line, a close that finds the lock taken, a line, and a close without random bytes. -/
def sampleLineCloses : List LineClose :=
  [sampleLineClose true (some (.replicate _ 7)), sampleLineClose false (some (.replicate _ 7)),
    sampleLineClose true (some (.replicate _ 8)), sampleLineClose true none]

theorem records_received_twice : ∃ t,
    Reaches (SnifferLink.step addingGcm (.replicate _ 0)) (fun _ c => c.fits = true)
      { sniffer := TransactionData.sampleSniffer } sampleLineCloses t ∧
    t.records.length = 2 ∧ t.parts.length = 5 ∧ t.thrown = some .encryptionException ∧
    (deliver [] t.parts).1.map (readLine addingGcm (.replicate _ 0)) = t.records.map some := by
  obtain ⟨t, h, ht⟩ := Reaches.of_decide (Q := fun _ (c : LineClose) => c.fits = true)
    (SnifferLink.step addingGcm (.replicate _ 0)) sampleLineCloses
    (p := fun t => t.records.length == 2 && t.parts.length == 5 &&
      t.thrown == some .encryptionException)
    (s := { sniffer := TransactionData.sampleSniffer }) (by decide +kernel)
  simp only [Bool.and_eq_true, beq_iff_eq] at ht
  exact ⟨t, h, ht.1.1, ht.1.2, ht.2, (records_received addingGcm_lawful h).1⟩

end SnifferLink

end Banjax
