/-! Limits of the reconstruction. -/
namespace HeaderRecovery

structure Options where
  /-- Most declarations kept for one source line, in a file and inside an aggregate. -/
  maxEntriesPerLine : Nat := 16
  /-- How deeply unnamed types are spelled out inside the declarations that use them. -/
  maxInlineDepth : Nat := 8
  deriving DecidableEq, Repr

end HeaderRecovery
