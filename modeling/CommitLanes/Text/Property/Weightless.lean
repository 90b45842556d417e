import CommitLanes.Text.Property.Basic

/-! Characters that take no column though they are neither ignorable nor extending. -/

set_option autoImplicit false

namespace CommitLanes.Property

/-- Vowels and final consonants of conjoining hangul, signs that are drawn around or over
what follows them, and the latest marks, which clusters do not know yet. -/
def weightless : Ranges := [
  (0x05C8, 0x05C9), (0x0605, 0x0605), (0x070F, 0x070F), (0x0890, 0x0891), (0x08E2, 0x08E2),
  (0x0B53, 0x0B54), (0x0D4E, 0x0D4E), (0x1161, 0x11FF), (0x1ADE, 0x1ADF), (0x1AEC, 0x1AF0),
  (0xA8FA, 0xA8FA), (0xD7B0, 0xD7C6), (0xD7CB, 0xD7FB), (0x10ECB, 0x10ECF),
  (0x10EF0, 0x10EF9), (0x111C2, 0x111C3), (0x113D1, 0x113D1), (0x1193F, 0x1193F),
  (0x11941, 0x11941), (0x11A84, 0x11A89), (0x11D46, 0x11D46), (0x11DF0, 0x11DF0),
  (0x11F02, 0x11F02), (0x1D127, 0x1D128), (0x1D250, 0x1D252), (0x1D280, 0x1D280)]

end CommitLanes.Property
