import Sift.Text.Character

/-!
# Tables for labels

Properties of the characters that may stand in a label. A range may also cover characters that may
not: they are refused before the tables are asked.
-/

namespace Sift.Host.Label

open Text (Ranges)

/-- The letters, marks and digits that may not stand anywhere in a label: folding case or dropping
what only concerns the appearance would change them, or they have a rule of their own. Those that
have a lower case are left out here. -/
def unfit : Ranges :=
  [(0xAA, 0xBA), (0x133, 0x133), (0x140, 0x140), (0x149, 0x149), (0x17F, 0x17F), (0x1C6, 0x1CC),
   (0x1F3, 0x1F3), (0x2B0, 0x2B8), (0x2E0, 0x2E4), (0x340, 0x341), (0x343, 0x345), (0x34F, 0x34F),
   (0x374, 0x374), (0x37A, 0x37A), (0x3D0, 0x3D6), (0x3F0, 0x3F2), (0x3F5, 0x3F5), (0x488, 0x489),
   (0x587, 0x587), (0x640, 0x640), (0x660, 0x669), (0x675, 0x678), (0x6F0, 0x6F9), (0x7FA, 0x7FA),
   (0x958, 0x95F), (0x9DC, 0x9DF), (0xA33, 0xA33), (0xA36, 0xA36), (0xA59, 0xA5B), (0xA5E, 0xA5E),
   (0xB5C, 0xB5D), (0xE33, 0xE33), (0xEB3, 0xEB3), (0xEDC, 0xEDD), (0xF43, 0xF43), (0xF4D, 0xF4D),
   (0xF52, 0xF52), (0xF57, 0xF57), (0xF5C, 0xF5C), (0xF69, 0xF69), (0xF73, 0xF73), (0xF75, 0xF79),
   (0xF81, 0xF81), (0xF93, 0xF93), (0xF9D, 0xF9D), (0xFA2, 0xFA2), (0xFA7, 0xFA7), (0xFAC, 0xFAC),
   (0xFB9, 0xFB9), (0x10FC, 0x10FC), (0x1100, 0x11FF), (0x13F8, 0x13FD), (0x17B4, 0x17B5),
   (0x180B, 0x180F), (0x1ABE, 0x1ABE), (0x1C80, 0x1C88), (0x1D2C, 0x1D2E), (0x1D30, 0x1D3A),
   (0x1D3C, 0x1D4D), (0x1D4F, 0x1D6A), (0x1D78, 0x1D78), (0x1D9B, 0x1DBF), (0x1E9A, 0x1E9B),
   (0x1F71, 0x1F71), (0x1F73, 0x1F73), (0x1F75, 0x1F75), (0x1F77, 0x1F77), (0x1F79, 0x1F79),
   (0x1F7B, 0x1F7B), (0x1F7D, 0x1FA7), (0x1FB2, 0x1FB4), (0x1FB7, 0x1FC4), (0x1FC7, 0x1FC7),
   (0x1FD3, 0x1FD3), (0x1FE3, 0x1FE3), (0x1FF2, 0x1FF4), (0x1FF7, 0x2149), (0x2C7C, 0x2C7D),
   (0x2D6F, 0x2D6F), (0x302E, 0x303B), (0x309F, 0x309F), (0x30FF, 0x30FF), (0x3131, 0x318E),
   (0xA670, 0xA672), (0xA69C, 0xA69D), (0xA770, 0xA770), (0xA7F2, 0xA7F4), (0xA7F8, 0xA7F9),
   (0xA960, 0xA97C), (0xAB5C, 0xAB5F), (0xAB69, 0xABBF), (0xD7B0, 0xFA0D), (0xFA10, 0xFA10),
   (0xFA12, 0xFA12), (0xFA15, 0xFA1E), (0xFA20, 0xFA20), (0xFA22, 0xFA22), (0xFA25, 0xFA26),
   (0xFA2A, 0xFB1D), (0xFB1F, 0xFE0F), (0xFE70, 0xFE72), (0xFE74, 0xFFDC), (0x10781, 0x107BA),
   (0x1D165, 0x1D7FF), (0x1EE00, 0x1FBF9), (0x2F800, 0x2FA1D), (0xE0100, 0xE01EF)]

/-- Characters that may stand in a label although they are no letters, marks or digits, or have a
lower case. -/
def admitted : Ranges :=
  [(0x2D, 0x2D), (0x6FD, 0x6FE), (0xF0B, 0xF0B), (0x13A0, 0x13F5), (0x3007, 0x3007)]

/-- Scripts that are written from right to left. -/
def rightToLeft : Ranges :=
  [(0x5D0, 0x8C9), (0xFE73, 0xFE73), (0x10800, 0x10FF6), (0x1E800, 0x1E959)]

/-- Characters of no direction. -/
def neutral : Ranges :=
  [(0x2D, 0x2D), (0xB7, 0xB7), (0x2B9, 0x2BA), (0x2C6, 0x2CF), (0x2EC, 0x2EC), (0x375, 0x375),
   (0x200C, 0x200D), (0x2E2F, 0x2E2F), (0x30FB, 0x30FB), (0xA67F, 0xA67F), (0xA717, 0xA71F),
   (0xA788, 0xA788)]

/-- Marks that take a direction from left to right. -/
def leftToRightMarks : Ranges :=
  [(0xCBF, 0xCBF), (0xCC6, 0xCC6), (0x11A07, 0x11A08), (0x11C3F, 0x11C3F)]

/-- Characters that join the one behind them. -/
def joiningAfter : Ranges :=
  [(0x620, 0x620), (0x626, 0x626), (0x628, 0x628), (0x62A, 0x62E), (0x633, 0x647), (0x649, 0x64A),
   (0x66E, 0x66F), (0x679, 0x687), (0x69A, 0x6BF), (0x6C1, 0x6C2), (0x6CC, 0x6CC), (0x6CE, 0x6CE),
   (0x6D0, 0x6D1), (0x6FA, 0x6FC), (0x6FF, 0x6FF), (0x712, 0x714), (0x71A, 0x71D), (0x71F, 0x727),
   (0x729, 0x729), (0x72B, 0x72B), (0x72D, 0x72E), (0x74E, 0x758), (0x75C, 0x76A), (0x76D, 0x770),
   (0x772, 0x772), (0x775, 0x777), (0x77A, 0x77F), (0x7CA, 0x7EA), (0x841, 0x845), (0x848, 0x848),
   (0x84A, 0x853), (0x855, 0x855), (0x860, 0x860), (0x862, 0x865), (0x868, 0x868), (0x886, 0x886),
   (0x889, 0x88D), (0x8A0, 0x8A9), (0x8AF, 0x8B0), (0x8B3, 0x8B8), (0x8BA, 0x8C8),
   (0x1820, 0x1878), (0x1887, 0x18AA), (0xA840, 0xA872), (0x10AC0, 0x10AC4), (0x10ACD, 0x10ACD),
   (0x10AD3, 0x10ADC), (0x10ADE, 0x10AE0), (0x10B80, 0x10B80), (0x10B82, 0x10B82),
   (0x10B86, 0x10B88), (0x10B8A, 0x10B8B), (0x10B8D, 0x10B8D), (0x10B90, 0x10B90),
   (0x10D00, 0x10D21), (0x10D23, 0x10D23), (0x10F30, 0x10F32), (0x10F34, 0x10F44),
   (0x10F70, 0x10F73), (0x10F76, 0x10FB0), (0x10FB2, 0x10FB3), (0x10FB8, 0x10FB8),
   (0x10FBB, 0x10FBC), (0x10FBE, 0x10FBF), (0x10FC1, 0x10FC1), (0x10FC4, 0x10FC4),
   (0x1E922, 0x1E943)]

/-- Characters that join the one before them. -/
def joiningBefore : Ranges :=
  [(0x620, 0x620), (0x622, 0x64A), (0x66E, 0x673), (0x679, 0x6D5), (0x6EE, 0x6EF), (0x6FA, 0x6FC),
   (0x6FF, 0x77F), (0x7CA, 0x7EA), (0x840, 0x860), (0x862, 0x865), (0x867, 0x882), (0x886, 0x886),
   (0x889, 0x8AC), (0x8AE, 0x8C8), (0x1820, 0x1878), (0x1887, 0x18AA), (0xA840, 0xA871),
   (0x10AC0, 0x10AC5), (0x10AC7, 0x10ACA), (0x10ACE, 0x10AD6), (0x10AD8, 0x10AE1),
   (0x10AE4, 0x10AE4), (0x10B80, 0x10B91), (0x10D01, 0x10D23), (0x10F30, 0x10F44),
   (0x10F70, 0x10FB0), (0x10FB2, 0x10FB6), (0x10FB8, 0x10FBF), (0x10FC1, 0x10FC4),
   (0x1E922, 0x1E943)]

/-- Characters besides the nonspacing marks that joining passes over. -/
def transparent : Ranges :=
  [(0x1E94B, 0x1E94B)]

def greek : Ranges :=
  [(0x371, 0x3E1), (0x3F3, 0x3FC), (0x1D26, 0x1D2A), (0x1F00, 0x1FF6), (0xAB65, 0xAB65)]

def hebrew : Ranges :=
  [(0x591, 0x5F4), (0xFB1E, 0xFB1E)]

/-- Characters of the Japanese syllabaries and Chinese characters. -/
def japanese : Ranges :=
  [(0x3005, 0x3005), (0x3007, 0x3007), (0x3041, 0x3096), (0x309D, 0x30FA), (0x30FD, 0x30FE),
   (0x31F0, 0x9FFF), (0xFA0E, 0xFA29), (0x16FE3, 0x16FE3), (0x16FF0, 0x16FF1), (0x1AFF0, 0x1B167),
   (0x20000, 0x3134A)]

end Sift.Host.Label
