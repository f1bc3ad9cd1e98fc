import LibnvmeRs.Error

/-!
# The argument structures of libnvme

The C structures the wrapper fills in, as the bindings expose them. A pointer
field holds what it points to, or `none` for NULL; the `result` out-pointers are
left out, since an answer carries what libnvme stores there. Fields the bindings
default have that default here.
-/

namespace LibnvmeRs

open ByteOrder

/-- A namespace handle with what libnvme's getters return for it. -/
structure NvmeNs where
  id : ℕ
  getNsid : I32
  getLbaSize : I32
  getMetaSize : I32
  deriving DecidableEq

abbrev NvmeCtrl := ℕ
abbrev NvmeRoot := ℕ
abbrev NvmeHost := ℕ
abbrev NvmeSubsystem := ℕ
abbrev NvmePath := ℕ

structure NvmeIoArgs where
  slba : U64 := 0
  storageTag : U64 := 0
  data : Option Slice := none
  metadata : Option Slice := none
  argsSize : I32 := 0
  fd : I32 := 0
  timeout : U32 := 0
  nsid : U32 := 0
  reftag : U32 := 0
  dataLen : U32 := 0
  metadataLen : U32 := 0
  nlb : U16 := 0
  control : U16 := 0
  apptag : U16 := 0
  appmask : U16 := 0
  dspec : U16 := 0
  dsm : U8 := 0
  rsvd1 : U8 := 0
  reftagU64 : U64 := 0
  sts : U8 := 0
  pif : U8 := 0

structure NvmeDsmRange where
  cattr : U32
  nlb : U32
  slba : U64

structure NvmeDsmArgs where
  dsm : List NvmeDsmRange
  argsSize : I32
  fd : I32
  timeout : U32
  nsid : U32
  attrs : U32
  nrRanges : U16

structure NvmeCopyRange where
  rsvd0 : Vector U8 8
  slba : U64
  nlb : U16
  rsvd18 : Vector U8 6
  eilbrt : U32
  elbat : U16
  elbatm : U16

structure NvmeCopyArgs where
  sdlba : U64
  copy : List NvmeCopyRange
  argsSize : I32
  fd : I32
  timeout : U32
  nsid : U32
  ilbrt : U32
  lr : I32
  fua : I32
  nr : U16
  dspec : U16
  lbatm : U16
  lbat : U16
  prinfor : U8
  prinfow : U8
  dtype : U8
  format : U8
  ilbrtU64 : U64

structure NvmeResvAcquireArgs where
  crkey : U64
  nrkey : U64
  argsSize : I32
  fd : I32
  timeout : U32
  nsid : U32
  rtype : U32
  racqa : U32
  iekey : Bool

structure NvmeResvRegisterArgs where
  crkey : U64
  nrkey : U64
  argsSize : I32
  fd : I32
  timeout : U32
  nsid : U32
  rrega : U32
  cptpl : U32
  iekey : Bool

structure NvmeResvReleaseArgs where
  crkey : U64
  argsSize : I32
  fd : I32
  timeout : U32
  nsid : U32
  rtype : U32
  rrela : U32
  iekey : Bool

structure NvmeResvReportArgs where
  report : Slice
  argsSize : I32
  fd : I32
  timeout : U32
  nsid : U32
  len : U32
  eds : Bool

structure NvmeZnsMgmtSendArgs where
  slba : U64
  data : Option Slice
  argsSize : I32
  fd : I32
  timeout : U32
  nsid : U32
  zsa : U32
  dataLen : U32
  selectAll : Bool
  zsaso : U8

structure NvmeZnsMgmtRecvArgs where
  slba : U64
  data : Slice
  argsSize : I32
  fd : I32
  timeout : U32
  nsid : U32
  zra : U32
  dataLen : U32
  zrasf : U16
  zrasFeat : Bool

structure NvmeZnsAppendArgs where
  zslba : U64
  data : Slice
  metadata : Option Slice
  argsSize : I32
  fd : I32
  timeout : U32
  nsid : U32
  ilbrt : U32
  dataLen : U32
  metadataLen : U32
  nlb : U16
  control : U16
  lbat : U16
  lbatm : U16
  rsvd1 : Vector U8 4
  ilbrtU64 : U64

/-- `nvme_directive_send_args` and `nvme_directive_recv_args` have the same fields. -/
structure NvmeDirectiveArgs where
  data : Option Slice
  argsSize : I32
  fd : I32
  timeout : U32
  nsid : U32
  doper : U32
  dtype : U32
  cdw12 : U32
  dataLen : U32
  dspec : U16

structure NvmePassthru where
  fd : I32
  opcode : U8
  flags : U8
  rsvd : U16
  nsid : U32
  cdw2 : U32
  cdw3 : U32
  cdw10 : U32
  cdw11 : U32
  cdw12 : U32
  cdw13 : U32
  cdw14 : U32
  cdw15 : U32
  dataLen : U32
  data : Option Slice
  metadataLen : U32
  metadata : Option Slice
  timeoutMs : U32

structure NvmeSecuritySendArgs where
  data : Slice
  argsSize : I32
  fd : I32
  timeout : U32
  nsid : U32
  tl : U32
  dataLen : U32
  nssf : U8
  spsp0 : U8
  spsp1 : U8
  secp : U8

structure NvmeSecurityReceiveArgs where
  data : Slice
  argsSize : I32
  fd : I32
  timeout : U32
  nsid : U32
  al : U32
  dataLen : U32
  nssf : U8
  spsp0 : U8
  spsp1 : U8
  secp : U8

structure NvmeGetLbaStatusArgs where
  slba : U64
  lbas : Slice
  argsSize : I32
  fd : I32
  timeout : U32
  nsid : U32
  mndw : U32
  atype : U32
  rl : U16

structure NvmeGetLogArgs where
  lpo : U64 := 0
  log : Option Slice := none
  argsSize : I32 := 0
  fd : I32 := 0
  timeout : U32 := 0
  lid : U32 := 0
  len : U32 := 0
  nsid : U32 := 0
  csi : U32 := 0
  lsi : U16 := 0
  lsp : U8 := 0
  uuidx : U8 := 0
  rae : Bool := false
  ot : Bool := false

structure NvmeFwDownloadSeq where
  fd : I32
  size : U32
  xfer : U32
  offset : U32
  buf : Slice

structure NvmeCtrlList where
  num : U16
  identifier : List U16

structure NvmeNsAttachArgs where
  ctrlist : NvmeCtrlList
  argsSize : I32
  fd : I32
  timeout : U32
  nsid : U32
  sel : U32

structure NvmeFormatNvmArgs where
  argsSize : I32
  fd : I32
  timeout : U32
  nsid : U32
  mset : U32
  pi : U32
  pil : U32
  ses : U32
  lbaf : U8
  rsvd1 : Vector U8 7
  lbafu : U8

/-- Bindings to headers without `emvs` have no such field. -/
structure NvmeSanitizeNvmArgs where
  argsSize : I32 := 0
  fd : I32 := 0
  timeout : U32 := 0
  sanact : U32 := 0
  ovrpat : U32 := 0
  ause : Bool := false
  owpass : U8 := 0
  oipbp : Bool := false
  nodas : Bool := false
  emvs : Option Bool := none

structure NvmeFwCommitArgs where
  argsSize : I32
  fd : I32
  timeout : U32
  action : U32
  slot : U8
  bpid : Bool

structure NvmeCreateCtrl where
  root : NvmeRoot
  subsysnqn : CString
  transport : CString
  traddr : Option CString
  hostTraddr : Option CString
  hostIface : Option CString
  trsvcid : Option CString

structure NvmeFabricsConfig where
  hostTraddr : Option CString := none
  hostIface : Option CString := none
  queueSize : I32 := 0
  nrIoQueues : I32 := 0
  reconnectDelay : I32 := 0
  ctrlLossTmo : I32 := 0
  fastIoFailTmo : I32 := 0
  keepAliveTmo : I32 := 0
  nrWriteQueues : I32 := 0
  nrPollQueues : I32 := 0
  tos : I32 := 0
  keyring : U64 := 0
  tlsKey : U64 := 0
  tlsConfiguredKey : U64 := 0
  duplicateConnect : Bool := false
  disableSqflow : Bool := false
  hdrDigest : Bool := false
  dataDigest : Bool := false
  tls : Bool := false
  concat : Bool := false

/-- One record of the discovery log, cut where the string fields begin. -/
structure NvmfDiscLogEntry where
  head : Vector Byte 32
  trsvcid : Vector Byte 32
  rsvd64 : Vector Byte 192
  subnqn : Vector Byte 256
  traddr : Vector Byte 256
  tsas : Vector Byte 256

/-- A discovery log in memory: libnvme stores as many records as the header counts. -/
structure NvmfDiscoveryLog where
  genctr : U64
  numrec : U64
  entries : List NvmfDiscLogEntry
  numrec_eq : numrec.toNat = entries.length

end LibnvmeRs
