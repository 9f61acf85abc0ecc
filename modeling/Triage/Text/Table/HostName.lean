/-!
# Characters that host names leave out

Most characters that may continue a name may also stand in the name of a host. The others are
compatibility forms of other characters, or digits and signs that need a context.
-/

namespace Triage.Text.Table

/-- Ranges from 128 on of which no character may stand in the name of a host. -/
def noHostName : List (Nat × Nat) := [
  (170, 186), (307, 307), (320, 320), (329, 329), (383, 383), (454, 460), (499, 499), (688, 696),
  (736, 740), (832, 833), (835, 837), (847, 847), (884, 884), (903, 903), (976, 982),
  (1008, 1010), (1013, 1013), (1415, 1415), (1600, 1600), (1632, 1641), (1653, 1656),
  (1776, 1785), (2042, 2042), (2392, 2399), (2524, 2527), (2611, 2611), (2614, 2614),
  (2649, 2651), (2654, 2654), (2908, 2909), (3635, 3635), (3763, 3763), (3804, 3805),
  (3907, 3907), (3917, 3917), (3922, 3922), (3927, 3927), (3932, 3932), (3945, 3945),
  (3955, 3955), (3957, 3961), (3969, 3969), (3987, 3987), (3997, 3997), (4002, 4002),
  (4007, 4007), (4012, 4012), (4025, 4025), (4348, 4348), (4352, 4607), (4969, 4977),
  (5112, 5117), (5870, 5872), (6068, 6069), (6155, 6159), (6618, 6618), (7296, 7304),
  (7468, 7470), (7472, 7482), (7484, 7501), (7503, 7530), (7544, 7544), (7579, 7615),
  (7834, 7835), (8049, 8049), (8051, 8051), (8053, 8053), (8055, 8055), (8057, 8057),
  (8059, 8059), (8061, 8103), (8114, 8116), (8119, 8132), (8135, 8135), (8147, 8147),
  (8163, 8163), (8178, 8180), (8183, 8521), (8560, 8578), (8581, 8584), (11388, 11389),
  (11631, 11631), (12321, 12329), (12334, 12347), (12447, 12447), (12543, 12543), (12593, 12686),
  (42652, 42653), (42726, 42735), (42864, 42864), (42994, 42996), (43000, 43001), (43360, 43388),
  (43868, 43871), (43881, 43967), (55216, 64013), (64016, 64016), (64018, 64018), (64021, 64030),
  (64032, 64032), (64034, 64034), (64037, 64038), (64042, 64285), (64287, 65039), (65075, 65137),
  (65143, 65500), (65856, 65908), (66369, 66369), (66378, 66378), (66513, 66517), (67457, 67514),
  (74752, 74862), (119141, 120831), (126464, 130041), (194560, 195101), (917760, 917999)]

end Triage.Text.Table
