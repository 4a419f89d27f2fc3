import DeviceBrowser.Host.Basic

/-!
A host without child processes: whatever is to be started is refused.
-/

namespace DeviceBrowser.Host

def confined : Host Unit where
  clock := pure ⟨0, 0, 0⟩
  launch _ := pure (.error (.spawn .permissionDenied))
  submit _ _ := pure (.error .brokenPipe)
  release _ := pure ()
  run _ _ := pure (.spawnFault .permissionDenied)

end DeviceBrowser.Host
