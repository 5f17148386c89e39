import NetanaDriver.FirmwareCrc

/-! `DownloadFile` (netana_toolkit.c): its states, its packets and its loop. -/
namespace NetanaDriver

/-- The states of the download, which are the commands of its packets. -/
inductive DownloadCmd where
  | downloadReq
  | dataReq
  | abortReq
  deriving DecidableEq, Repr

/-- `RCX_FILE_DOWNLOAD_XXX_REQ`. -/
def DownloadCmd.ulCmd : DownloadCmd → BitVec 32
  | .downloadReq => 0x1e62#32
  | .dataReq => 0x1e64#32
  | .abortReq => 0x1e66#32

/-- `RCX_PACKET_SEQ_XXX`. -/
def seqNone : BitVec 32 := 0x0#32
def seqFirst : BitVec 32 := 0x80#32
def seqMiddle : BitVec 32 := 0xc0#32
def seqLast : BitVec 32 := 0x40#32

def rcxPacketDestSystem : BitVec 32 := 0#32

/-- `NETANA_DOWNLOAD_FAILED`. -/
def netanaDownloadFailed : BitVec 32 := 0x80210005#32

/-- Sizes of the packed structures: the packet header, and the data of the two requests. -/
def packetHeaderSize : ℕ := 40
def downloadReqDataSize : ℕ := 18
def dataReqDataSize : ℕ := 8

structure PacketHeader where
  ulDest : BitVec 32
  ulSrc : BitVec 32
  ulDestId : BitVec 32
  ulSrcId : BitVec 32
  ulLen : BitVec 32
  ulId : BitVec 32
  ulSta : BitVec 32
  ulCmd : BitVec 32
  ulExt : BitVec 32
  ulRout : BitVec 32
  deriving DecidableEq, Repr

/-- What follows the header. -/
inductive DownloadData where
  | request (ulXferType ulMaxBlockSize ulFileLength ulChannelNo : BitVec 32)
      (usFileNameLength : BitVec 16) (szFileName : List (BitVec 8))
  | block (ulBlockNo ulChksum : BitVec 32) (payload : List (BitVec 8))
  | abort
  deriving DecidableEq, Repr

structure DownloadPacket where
  tHead : PacketHeader
  tData : DownloadData
  deriving DecidableEq, Repr

/-- What a call of `pfnTransferPacket` delivers: its return value, and the status and the block
size in the answer. -/
structure TransferResult where
  lRet : BitVec 32
  ulSta : BitVec 32
  ulMaxBlockSize : BitVec 32
  deriving DecidableEq, Repr

/-- The other end of `pfnTransferPacket`: its answer to a packet after those sent before. -/
def Transfer := List DownloadPacket → DownloadPacket → TransferResult

/-- The parameters of `DownloadFile`; `unsigned long` has 64 bits. The file name is without its
terminator. -/
structure DownloadParams where
  ulChannel : BitVec 64
  ulMailboxSize : BitVec 64
  ulTransferType : BitVec 64
  szFileName : List (BitVec 8)
  pvFile : List (BitVec 8)
  ulFileLength : BitVec 64

/-- The locals of `DownloadFile`. `tHead` is the header in the send buffer, which the packets
share; `sent` is the history of the packets passed to `pfnTransferPacket`. -/
structure DownloadState where
  tHead : PacketHeader
  ulMaxDataLength : BitVec 32
  ulSendLen : BitVec 32
  ulTransferedLength : BitVec 32
  ulCRC : BitVec 32
  ulBlockNumber : BitVec 32
  ulState : DownloadCmd
  ulCmdDataState : BitVec 32
  fStopDownload : Bool
  lRetAbort : BitVec 32
  lRet : BitVec 32
  ulCurrentId : BitVec 32
  ulCurrentOffset : BitVec 32
  sent : List DownloadPacket
  deriving DecidableEq, Repr

/-- The initial values; the send buffer is not cleared. -/
def downloadInit (p : DownloadParams) (tHead : PacketHeader) : DownloadState where
  tHead := tHead
  ulMaxDataLength :=
    (p.ulMailboxSize - BitVec.ofNat 64 (packetHeaderSize + dataReqDataSize)).setWidth 32
  ulSendLen := 0#32
  ulTransferedLength := 0#32
  ulCRC := 0#32
  ulBlockNumber := 0#32
  ulState := .downloadReq
  ulCmdDataState := seqNone
  fStopDownload := false
  lRetAbort := 0#32
  lRet := 0#32
  ulCurrentId := 0#32
  ulCurrentOffset := 0#32
  sent := []

/-- The packet with the download request; the file name is cut to fit the mailbox. -/
def requestPacket (p : DownloadParams) (s : DownloadState) : DownloadPacket :=
  let nameLen := BitVec.ofNat 64 (p.szFileName.length + 1)
  let nameMax := p.ulMailboxSize - BitVec.ofNat 64 (packetHeaderSize + downloadReqDataSize)
  let ulFileNameLength := if nameLen < nameMax then nameLen else nameMax
  ⟨{ ulDest := rcxPacketDestSystem
     ulSrc := 0#32
     ulDestId := 0#32
     ulSrcId := 0#32
     ulLen := (BitVec.ofNat 64 downloadReqDataSize + ulFileNameLength).setWidth 32
     ulId := s.ulCurrentId + 1#32
     ulSta := 0#32
     ulCmd := DownloadCmd.downloadReq.ulCmd
     ulExt := s.ulCmdDataState
     ulRout := 0#32 },
    .request (p.ulTransferType.setWidth 32) s.ulMaxDataLength (p.ulFileLength.setWidth 32)
      (p.ulChannel.setWidth 32) (ulFileNameLength.setWidth 16)
      ((p.szFileName ++ [0#8]).take ulFileNameLength.toNat)⟩

/-- The case `RCX_FILE_DOWNLOAD_REQ`. -/
def downloadReq (p : DownloadParams) (pfnTransferPacket : Transfer) (s : DownloadState) :
    DownloadState :=
  let packet := requestPacket p s
  let r := pfnTransferPacket s.sent packet
  let s := { s with
    tHead := packet.tHead
    ulCurrentId := s.ulCurrentId + 1#32
    sent := s.sent ++ [packet] }
  if r.lRet ≠ 0#32 then { s with lRet := r.lRet, ulState := .abortReq }
  else if r.ulSta ≠ 0#32 then { s with lRet := r.ulSta, ulState := .abortReq }
  else if r.ulMaxBlockSize = 0#32 then
    { s with lRet := netanaDownloadFailed, ulState := .abortReq }
  else
    let ulMaxDataLength :=
      if s.ulMaxDataLength > r.ulMaxBlockSize then r.ulMaxBlockSize else s.ulMaxDataLength
    if p.ulFileLength ≤ ulMaxDataLength.setWidth 64 then
      { s with
        lRet := 0#32
        ulMaxDataLength := ulMaxDataLength
        ulSendLen := p.ulFileLength.setWidth 32
        ulCmdDataState := seqNone
        ulState := .dataReq }
    else
      { s with
        lRet := 0#32
        ulMaxDataLength := ulMaxDataLength
        ulSendLen := ulMaxDataLength
        ulCmdDataState := seqFirst
        ulState := .dataReq }

/-- The case `RCX_FILE_DOWNLOAD_DATA_REQ`. -/
def downloadDataReq (p : DownloadParams) (pfnTransferPacket : Transfer) (s : DownloadState) :
    DownloadState :=
  let ulCurrentId := s.ulCurrentId + 1#32
  let payload := (p.pvFile.drop s.ulCurrentOffset.toNat).take s.ulSendLen.toNat
  let ulCRC := createCRC32 s.ulCRC payload
  let tHead : PacketHeader :=
    { s.tHead with
      ulDest := rcxPacketDestSystem
      ulSrc := 0#32
      ulCmd := DownloadCmd.dataReq.ulCmd
      ulId := ulCurrentId
      ulExt := s.ulCmdDataState
      ulLen := BitVec.ofNat 32 dataReqDataSize + s.ulSendLen }
  let packet : DownloadPacket := ⟨tHead, .block s.ulBlockNumber ulCRC payload⟩
  let r := pfnTransferPacket s.sent packet
  let s := { s with
    tHead := tHead
    ulCurrentId := ulCurrentId
    ulCRC := ulCRC
    ulBlockNumber := s.ulBlockNumber + 1#32
    sent := s.sent ++ [packet] }
  if r.lRet ≠ 0#32 then { s with lRet := r.lRet, ulState := .abortReq }
  else if r.ulSta ≠ 0#32 then { s with lRet := r.ulSta, ulState := .abortReq }
  else
    let ulTransferedLength := s.ulTransferedLength + s.ulSendLen
    if s.ulCmdDataState = seqLast ∨ s.ulCmdDataState = seqNone then
      { s with
        lRet := 0#32
        ulTransferedLength := ulTransferedLength
        fStopDownload := true }
    -- the decision on the next block
    else if p.ulFileLength ≤ (s.ulSendLen + ulTransferedLength).setWidth 64 then
      { s with
        lRet := 0#32
        ulTransferedLength := ulTransferedLength
        ulCurrentOffset := s.ulCurrentOffset + s.ulSendLen
        ulSendLen := (p.ulFileLength - ulTransferedLength.setWidth 64).setWidth 32
        ulCmdDataState := seqLast }
    else
      { s with
        lRet := 0#32
        ulTransferedLength := ulTransferedLength
        ulCurrentOffset := s.ulCurrentOffset + s.ulSendLen
        ulCmdDataState := seqMiddle }

/-- The case `RCX_FILE_DOWNLOAD_ABORT_REQ`. -/
def downloadAbortReq (pfnTransferPacket : Transfer) (s : DownloadState) : DownloadState :=
  let ulCurrentId := s.ulCurrentId + 1#32
  let tHead : PacketHeader :=
    { ulDest := rcxPacketDestSystem
      ulSrc := 0#32
      ulDestId := 0#32
      ulSrcId := 0#32
      ulLen := 0#32
      ulId := ulCurrentId
      ulSta := 0#32
      ulCmd := DownloadCmd.abortReq.ulCmd
      ulExt := seqNone
      ulRout := 0#32 }
  let packet : DownloadPacket := ⟨tHead, .abort⟩
  let r := pfnTransferPacket s.sent packet
  { s with
    tHead := tHead
    ulCurrentId := ulCurrentId
    sent := s.sent ++ [packet]
    lRetAbort := if r.lRet = 0#32 then r.ulSta else r.lRet
    fStopDownload := true }

/-- One pass through the loop. -/
def downloadPass (p : DownloadParams) (pfnTransferPacket : Transfer) (s : DownloadState) :
    DownloadState :=
  match s.ulState with
  | .downloadReq => downloadReq p pfnTransferPacket s
  | .dataReq => downloadDataReq p pfnTransferPacket s
  | .abortReq => downloadAbortReq pfnTransferPacket s

/-- `do … while(!fStopDownload)`, for at most `fuel` passes. -/
def downloadLoop (p : DownloadParams) (pfnTransferPacket : Transfer) :
    ℕ → DownloadState → Option DownloadState
  | 0, _ => none
  | fuel + 1, s =>
    let t := downloadPass p pfnTransferPacket s
    if t.fStopDownload then some t else downloadLoop p pfnTransferPacket fuel t

/-- What `DownloadFile` returns, with the packets it has sent. -/
structure DownloadResult where
  lRet : BitVec 32
  sent : List DownloadPacket
  deriving DecidableEq, Repr

/-- `DownloadFile`, when both packet buffers could be allocated and at most `fuel` passes are
made. -/
def downloadFile (fuel : ℕ) (p : DownloadParams) (tHead : PacketHeader)
    (pfnTransferPacket : Transfer) : Option DownloadResult :=
  (downloadLoop p pfnTransferPacket fuel (downloadInit p tHead)).map fun s =>
    ⟨if s.lRet ≠ 0#32 then s.lRet else s.lRetAbort, s.sent⟩

end NetanaDriver
