import SqlIdentifier.Unicode.CategoryTable

namespace SqlIdentifier.Unicode

open Category

def CategoryTable.runs00000 : List CategoryRun := [
  ⟨0x0, cc, cc⟩, ⟨0x20, zs, zs⟩, ⟨0x21, po, po⟩, ⟨0x24, sc, sc⟩, ⟨0x25, po, po⟩, ⟨0x28, ps, ps⟩,
  ⟨0x29, pe, pe⟩, ⟨0x2A, po, po⟩, ⟨0x2B, sm, sm⟩, ⟨0x2C, po, po⟩, ⟨0x2D, pd, pd⟩, ⟨0x2E, po, po⟩,
  ⟨0x30, nd, nd⟩, ⟨0x3A, po, po⟩, ⟨0x3C, sm, sm⟩, ⟨0x3F, po, po⟩, ⟨0x41, lu, lu⟩, ⟨0x5B, ps, ps⟩,
  ⟨0x5C, po, po⟩, ⟨0x5D, pe, pe⟩, ⟨0x5E, sk, sk⟩, ⟨0x5F, pc, pc⟩, ⟨0x60, sk, sk⟩, ⟨0x61, ll, ll⟩,
  ⟨0x7B, ps, ps⟩, ⟨0x7C, sm, sm⟩, ⟨0x7D, pe, pe⟩, ⟨0x7E, sm, sm⟩, ⟨0x7F, cc, cc⟩, ⟨0xA0, zs, zs⟩,
  ⟨0xA1, po, po⟩, ⟨0xA2, sc, sc⟩, ⟨0xA6, so, so⟩, ⟨0xA7, po, po⟩, ⟨0xA8, sk, sk⟩, ⟨0xA9, so, so⟩,
  ⟨0xAA, lo, lo⟩, ⟨0xAB, pi, pi⟩, ⟨0xAC, sm, sm⟩, ⟨0xAD, cf, cf⟩, ⟨0xAE, so, so⟩, ⟨0xAF, sk, sk⟩,
  ⟨0xB0, so, so⟩, ⟨0xB1, sm, sm⟩, ⟨0xB2, no, no⟩, ⟨0xB4, sk, sk⟩, ⟨0xB5, ll, ll⟩, ⟨0xB6, po, po⟩,
  ⟨0xB8, sk, sk⟩, ⟨0xB9, no, no⟩, ⟨0xBA, lo, lo⟩, ⟨0xBB, pf, pf⟩, ⟨0xBC, no, no⟩, ⟨0xBF, po, po⟩,
  ⟨0xC0, lu, lu⟩, ⟨0xD7, sm, sm⟩, ⟨0xD8, lu, lu⟩, ⟨0xDF, ll, ll⟩, ⟨0xF7, sm, sm⟩, ⟨0xF8, ll, ll⟩,
  ⟨0x100, lu, ll⟩, ⟨0x137, ll, ll⟩, ⟨0x139, ll, lu⟩, ⟨0x148, ll, ll⟩]

def CategoryTable.runs0014A : List CategoryRun := [
  ⟨0x14A, lu, ll⟩, ⟨0x178, lu, lu⟩, ⟨0x17A, ll, lu⟩, ⟨0x17E, ll, ll⟩, ⟨0x181, lu, lu⟩,
  ⟨0x183, lu, ll⟩, ⟨0x186, lu, lu⟩, ⟨0x188, ll, ll⟩, ⟨0x189, lu, lu⟩, ⟨0x18C, ll, ll⟩,
  ⟨0x18E, lu, lu⟩, ⟨0x192, ll, ll⟩, ⟨0x193, lu, lu⟩, ⟨0x195, ll, ll⟩, ⟨0x196, lu, lu⟩,
  ⟨0x199, ll, ll⟩, ⟨0x19C, lu, lu⟩, ⟨0x19E, ll, ll⟩, ⟨0x19F, lu, lu⟩, ⟨0x1A1, lu, ll⟩,
  ⟨0x1A6, lu, lu⟩, ⟨0x1A8, ll, ll⟩, ⟨0x1A9, lu, lu⟩, ⟨0x1AA, ll, ll⟩, ⟨0x1AC, lu, lu⟩,
  ⟨0x1AD, ll, ll⟩, ⟨0x1AE, lu, lu⟩, ⟨0x1B0, ll, ll⟩, ⟨0x1B1, lu, lu⟩, ⟨0x1B4, ll, lu⟩,
  ⟨0x1B7, lu, lu⟩, ⟨0x1B9, ll, ll⟩, ⟨0x1BB, lo, lo⟩, ⟨0x1BC, lu, lu⟩, ⟨0x1BD, ll, ll⟩,
  ⟨0x1C0, lo, lo⟩, ⟨0x1C4, lu, lu⟩, ⟨0x1C5, lt, lt⟩, ⟨0x1C6, ll, ll⟩, ⟨0x1C7, lu, lu⟩,
  ⟨0x1C8, lt, lt⟩, ⟨0x1C9, ll, ll⟩, ⟨0x1CA, lu, lu⟩, ⟨0x1CB, lt, lt⟩, ⟨0x1CC, ll, lu⟩,
  ⟨0x1DC, ll, ll⟩, ⟨0x1DE, lu, ll⟩, ⟨0x1EF, ll, ll⟩, ⟨0x1F1, lu, lu⟩, ⟨0x1F2, lt, lt⟩,
  ⟨0x1F3, lu, ll⟩, ⟨0x1F6, lu, lu⟩, ⟨0x1F9, lu, ll⟩, ⟨0x233, ll, ll⟩, ⟨0x23A, lu, lu⟩,
  ⟨0x23C, ll, ll⟩, ⟨0x23D, lu, lu⟩, ⟨0x23F, ll, ll⟩, ⟨0x241, lu, lu⟩, ⟨0x242, ll, ll⟩,
  ⟨0x243, lu, lu⟩, ⟨0x247, lu, ll⟩, ⟨0x24F, ll, ll⟩, ⟨0x294, lo, lo⟩]

def CategoryTable.runs00295 : List CategoryRun := [
  ⟨0x295, ll, ll⟩, ⟨0x2B0, lm, lm⟩, ⟨0x2C2, sk, sk⟩, ⟨0x2C6, lm, lm⟩, ⟨0x2D2, sk, sk⟩,
  ⟨0x2E0, lm, lm⟩, ⟨0x2E5, sk, sk⟩, ⟨0x2EC, lm, sk⟩, ⟨0x2EF, sk, sk⟩, ⟨0x300, mn, mn⟩,
  ⟨0x370, lu, ll⟩, ⟨0x374, lm, lm⟩, ⟨0x375, sk, sk⟩, ⟨0x376, lu, lu⟩, ⟨0x377, ll, ll⟩,
  ⟨0x378, cn, cn⟩, ⟨0x37A, lm, lm⟩, ⟨0x37B, ll, ll⟩, ⟨0x37E, po, po⟩, ⟨0x37F, lu, lu⟩,
  ⟨0x380, cn, cn⟩, ⟨0x384, sk, sk⟩, ⟨0x386, lu, lu⟩, ⟨0x387, po, po⟩, ⟨0x388, lu, lu⟩,
  ⟨0x38B, lu, cn⟩, ⟨0x38E, lu, lu⟩, ⟨0x390, ll, ll⟩, ⟨0x391, lu, lu⟩, ⟨0x3A2, cn, cn⟩,
  ⟨0x3A3, lu, lu⟩, ⟨0x3AC, ll, ll⟩, ⟨0x3CF, lu, lu⟩, ⟨0x3D0, ll, ll⟩, ⟨0x3D2, lu, lu⟩,
  ⟨0x3D5, ll, ll⟩, ⟨0x3D8, lu, ll⟩, ⟨0x3EF, ll, ll⟩, ⟨0x3F4, lu, lu⟩, ⟨0x3F5, ll, ll⟩,
  ⟨0x3F6, sm, sm⟩, ⟨0x3F7, lu, lu⟩, ⟨0x3F8, ll, ll⟩, ⟨0x3F9, lu, lu⟩, ⟨0x3FB, ll, ll⟩,
  ⟨0x3FD, lu, lu⟩, ⟨0x430, ll, ll⟩, ⟨0x460, lu, ll⟩, ⟨0x482, so, so⟩, ⟨0x483, mn, mn⟩,
  ⟨0x488, me, me⟩, ⟨0x48A, lu, ll⟩, ⟨0x4C0, lu, lu⟩, ⟨0x4C2, ll, lu⟩, ⟨0x4CE, ll, ll⟩,
  ⟨0x4D0, lu, ll⟩, ⟨0x530, cn, cn⟩, ⟨0x531, lu, lu⟩, ⟨0x557, cn, cn⟩, ⟨0x559, lm, lm⟩,
  ⟨0x55A, po, po⟩, ⟨0x560, ll, ll⟩, ⟨0x589, po, po⟩, ⟨0x58A, pd, pd⟩]

def CategoryTable.runs0058B : List CategoryRun := [
  ⟨0x58B, cn, cn⟩, ⟨0x58D, so, so⟩, ⟨0x58F, sc, sc⟩, ⟨0x590, cn, cn⟩, ⟨0x591, mn, mn⟩,
  ⟨0x5BE, pd, pd⟩, ⟨0x5BF, mn, mn⟩, ⟨0x5C0, po, po⟩, ⟨0x5C1, mn, mn⟩, ⟨0x5C3, po, po⟩,
  ⟨0x5C4, mn, mn⟩, ⟨0x5C6, po, po⟩, ⟨0x5C7, mn, mn⟩, ⟨0x5C8, cn, cn⟩, ⟨0x5D0, lo, lo⟩,
  ⟨0x5EB, cn, cn⟩, ⟨0x5EF, lo, lo⟩, ⟨0x5F3, po, po⟩, ⟨0x5F5, cn, cn⟩, ⟨0x600, cf, cf⟩,
  ⟨0x606, sm, sm⟩, ⟨0x609, po, po⟩, ⟨0x60B, sc, sc⟩, ⟨0x60C, po, po⟩, ⟨0x60E, so, so⟩,
  ⟨0x610, mn, mn⟩, ⟨0x61B, po, po⟩, ⟨0x61C, cf, cf⟩, ⟨0x61D, po, po⟩, ⟨0x620, lo, lo⟩,
  ⟨0x640, lm, lm⟩, ⟨0x641, lo, lo⟩, ⟨0x64B, mn, mn⟩, ⟨0x660, nd, nd⟩, ⟨0x66A, po, po⟩,
  ⟨0x66E, lo, lo⟩, ⟨0x670, mn, mn⟩, ⟨0x671, lo, lo⟩, ⟨0x6D4, po, po⟩, ⟨0x6D5, lo, lo⟩,
  ⟨0x6D6, mn, mn⟩, ⟨0x6DD, cf, cf⟩, ⟨0x6DE, so, so⟩, ⟨0x6DF, mn, mn⟩, ⟨0x6E5, lm, lm⟩,
  ⟨0x6E7, mn, mn⟩, ⟨0x6E9, so, so⟩, ⟨0x6EA, mn, mn⟩, ⟨0x6EE, lo, lo⟩, ⟨0x6F0, nd, nd⟩,
  ⟨0x6FA, lo, lo⟩, ⟨0x6FD, so, so⟩, ⟨0x6FF, lo, lo⟩, ⟨0x700, po, po⟩, ⟨0x70E, cn, cn⟩,
  ⟨0x70F, cf, cf⟩, ⟨0x710, lo, lo⟩, ⟨0x711, mn, mn⟩, ⟨0x712, lo, lo⟩, ⟨0x730, mn, mn⟩,
  ⟨0x74B, cn, cn⟩, ⟨0x74D, lo, lo⟩, ⟨0x7A6, mn, mn⟩, ⟨0x7B1, lo, lo⟩]

def CategoryTable.runs007B2 : List CategoryRun := [
  ⟨0x7B2, cn, cn⟩, ⟨0x7C0, nd, nd⟩, ⟨0x7CA, lo, lo⟩, ⟨0x7EB, mn, mn⟩, ⟨0x7F4, lm, lm⟩,
  ⟨0x7F6, so, so⟩, ⟨0x7F7, po, po⟩, ⟨0x7FA, lm, lm⟩, ⟨0x7FB, cn, cn⟩, ⟨0x7FD, mn, mn⟩,
  ⟨0x7FE, sc, sc⟩, ⟨0x800, lo, lo⟩, ⟨0x816, mn, mn⟩, ⟨0x81A, lm, lm⟩, ⟨0x81B, mn, mn⟩,
  ⟨0x824, lm, lm⟩, ⟨0x825, mn, mn⟩, ⟨0x828, lm, lm⟩, ⟨0x829, mn, mn⟩, ⟨0x82E, cn, cn⟩,
  ⟨0x830, po, po⟩, ⟨0x83F, cn, cn⟩, ⟨0x840, lo, lo⟩, ⟨0x859, mn, mn⟩, ⟨0x85C, cn, cn⟩,
  ⟨0x85E, po, po⟩, ⟨0x85F, cn, cn⟩, ⟨0x860, lo, lo⟩, ⟨0x86B, cn, cn⟩, ⟨0x870, lo, lo⟩,
  ⟨0x888, sk, sk⟩, ⟨0x889, lo, lo⟩, ⟨0x88F, cn, cn⟩, ⟨0x890, cf, cf⟩, ⟨0x892, cn, cn⟩,
  ⟨0x897, mn, mn⟩, ⟨0x8A0, lo, lo⟩, ⟨0x8C9, lm, lm⟩, ⟨0x8CA, mn, mn⟩, ⟨0x8E2, cf, cf⟩,
  ⟨0x8E3, mn, mn⟩, ⟨0x903, mc, mc⟩, ⟨0x904, lo, lo⟩, ⟨0x93A, mn, mn⟩, ⟨0x93B, mc, mc⟩,
  ⟨0x93C, mn, mn⟩, ⟨0x93D, lo, lo⟩, ⟨0x93E, mc, mc⟩, ⟨0x941, mn, mn⟩, ⟨0x949, mc, mc⟩,
  ⟨0x94D, mn, mn⟩, ⟨0x94E, mc, mc⟩, ⟨0x950, lo, lo⟩, ⟨0x951, mn, mn⟩, ⟨0x958, lo, lo⟩,
  ⟨0x962, mn, mn⟩, ⟨0x964, po, po⟩, ⟨0x966, nd, nd⟩, ⟨0x970, po, po⟩, ⟨0x971, lm, lm⟩,
  ⟨0x972, lo, lo⟩, ⟨0x981, mn, mn⟩, ⟨0x982, mc, mc⟩, ⟨0x984, cn, cn⟩]

def CategoryTable.runs00985 : List CategoryRun := [
  ⟨0x985, lo, lo⟩, ⟨0x98D, cn, cn⟩, ⟨0x98F, lo, lo⟩, ⟨0x991, cn, cn⟩, ⟨0x993, lo, lo⟩,
  ⟨0x9A9, cn, cn⟩, ⟨0x9AA, lo, lo⟩, ⟨0x9B1, cn, cn⟩, ⟨0x9B2, lo, lo⟩, ⟨0x9B3, cn, cn⟩,
  ⟨0x9B6, lo, lo⟩, ⟨0x9BA, cn, cn⟩, ⟨0x9BC, mn, mn⟩, ⟨0x9BD, lo, lo⟩, ⟨0x9BE, mc, mc⟩,
  ⟨0x9C1, mn, mn⟩, ⟨0x9C5, cn, cn⟩, ⟨0x9C7, mc, mc⟩, ⟨0x9C9, cn, cn⟩, ⟨0x9CB, mc, mc⟩,
  ⟨0x9CD, mn, mn⟩, ⟨0x9CE, lo, lo⟩, ⟨0x9CF, cn, cn⟩, ⟨0x9D7, mc, mc⟩, ⟨0x9D8, cn, cn⟩,
  ⟨0x9DC, lo, lo⟩, ⟨0x9DE, cn, cn⟩, ⟨0x9DF, lo, lo⟩, ⟨0x9E2, mn, mn⟩, ⟨0x9E4, cn, cn⟩,
  ⟨0x9E6, nd, nd⟩, ⟨0x9F0, lo, lo⟩, ⟨0x9F2, sc, sc⟩, ⟨0x9F4, no, no⟩, ⟨0x9FA, so, so⟩,
  ⟨0x9FB, sc, sc⟩, ⟨0x9FC, lo, lo⟩, ⟨0x9FD, po, po⟩, ⟨0x9FE, mn, mn⟩, ⟨0x9FF, cn, cn⟩,
  ⟨0xA01, mn, mn⟩, ⟨0xA03, mc, mc⟩, ⟨0xA04, cn, cn⟩, ⟨0xA05, lo, lo⟩, ⟨0xA0B, cn, cn⟩,
  ⟨0xA0F, lo, lo⟩, ⟨0xA11, cn, cn⟩, ⟨0xA13, lo, lo⟩, ⟨0xA29, cn, cn⟩, ⟨0xA2A, lo, lo⟩,
  ⟨0xA31, cn, cn⟩, ⟨0xA32, lo, lo⟩, ⟨0xA34, cn, cn⟩, ⟨0xA35, lo, lo⟩, ⟨0xA37, cn, cn⟩,
  ⟨0xA38, lo, lo⟩, ⟨0xA3A, cn, cn⟩, ⟨0xA3C, mn, mn⟩, ⟨0xA3D, cn, cn⟩, ⟨0xA3E, mc, mc⟩,
  ⟨0xA41, mn, mn⟩, ⟨0xA43, cn, cn⟩, ⟨0xA47, mn, mn⟩, ⟨0xA49, cn, cn⟩]

def CategoryTable.runs00A4B : List CategoryRun := [
  ⟨0xA4B, mn, mn⟩, ⟨0xA4E, cn, cn⟩, ⟨0xA51, mn, mn⟩, ⟨0xA52, cn, cn⟩, ⟨0xA59, lo, lo⟩,
  ⟨0xA5D, cn, cn⟩, ⟨0xA5E, lo, lo⟩, ⟨0xA5F, cn, cn⟩, ⟨0xA66, nd, nd⟩, ⟨0xA70, mn, mn⟩,
  ⟨0xA72, lo, lo⟩, ⟨0xA75, mn, mn⟩, ⟨0xA76, po, po⟩, ⟨0xA77, cn, cn⟩, ⟨0xA81, mn, mn⟩,
  ⟨0xA83, mc, mc⟩, ⟨0xA84, cn, cn⟩, ⟨0xA85, lo, lo⟩, ⟨0xA8E, cn, cn⟩, ⟨0xA8F, lo, lo⟩,
  ⟨0xA92, cn, cn⟩, ⟨0xA93, lo, lo⟩, ⟨0xAA9, cn, cn⟩, ⟨0xAAA, lo, lo⟩, ⟨0xAB1, cn, cn⟩,
  ⟨0xAB2, lo, lo⟩, ⟨0xAB4, cn, cn⟩, ⟨0xAB5, lo, lo⟩, ⟨0xABA, cn, cn⟩, ⟨0xABC, mn, mn⟩,
  ⟨0xABD, lo, lo⟩, ⟨0xABE, mc, mc⟩, ⟨0xAC1, mn, mn⟩, ⟨0xAC6, cn, cn⟩, ⟨0xAC7, mn, mn⟩,
  ⟨0xAC9, mc, mc⟩, ⟨0xACA, cn, cn⟩, ⟨0xACB, mc, mc⟩, ⟨0xACD, mn, mn⟩, ⟨0xACE, cn, cn⟩,
  ⟨0xAD0, lo, lo⟩, ⟨0xAD1, cn, cn⟩, ⟨0xAE0, lo, lo⟩, ⟨0xAE2, mn, mn⟩, ⟨0xAE4, cn, cn⟩,
  ⟨0xAE6, nd, nd⟩, ⟨0xAF0, po, po⟩, ⟨0xAF1, sc, sc⟩, ⟨0xAF2, cn, cn⟩, ⟨0xAF9, lo, lo⟩,
  ⟨0xAFA, mn, mn⟩, ⟨0xB00, cn, cn⟩, ⟨0xB01, mn, mn⟩, ⟨0xB02, mc, mc⟩, ⟨0xB04, cn, cn⟩,
  ⟨0xB05, lo, lo⟩, ⟨0xB0D, cn, cn⟩, ⟨0xB0F, lo, lo⟩, ⟨0xB11, cn, cn⟩, ⟨0xB13, lo, lo⟩,
  ⟨0xB29, cn, cn⟩, ⟨0xB2A, lo, lo⟩, ⟨0xB31, cn, cn⟩, ⟨0xB32, lo, lo⟩]

def CategoryTable.runs00B34 : List CategoryRun := [
  ⟨0xB34, cn, cn⟩, ⟨0xB35, lo, lo⟩, ⟨0xB3A, cn, cn⟩, ⟨0xB3C, mn, mn⟩, ⟨0xB3D, lo, lo⟩,
  ⟨0xB3E, mc, mn⟩, ⟨0xB41, mn, mn⟩, ⟨0xB45, cn, cn⟩, ⟨0xB47, mc, mc⟩, ⟨0xB49, cn, cn⟩,
  ⟨0xB4B, mc, mc⟩, ⟨0xB4D, mn, mn⟩, ⟨0xB4E, cn, cn⟩, ⟨0xB55, mn, mn⟩, ⟨0xB57, mc, mc⟩,
  ⟨0xB58, cn, cn⟩, ⟨0xB5C, lo, lo⟩, ⟨0xB5E, cn, cn⟩, ⟨0xB5F, lo, lo⟩, ⟨0xB62, mn, mn⟩,
  ⟨0xB64, cn, cn⟩, ⟨0xB66, nd, nd⟩, ⟨0xB70, so, so⟩, ⟨0xB71, lo, lo⟩, ⟨0xB72, no, no⟩,
  ⟨0xB78, cn, cn⟩, ⟨0xB82, mn, mn⟩, ⟨0xB83, lo, lo⟩, ⟨0xB84, cn, cn⟩, ⟨0xB85, lo, lo⟩,
  ⟨0xB8B, cn, cn⟩, ⟨0xB8E, lo, lo⟩, ⟨0xB91, cn, cn⟩, ⟨0xB92, lo, lo⟩, ⟨0xB96, cn, cn⟩,
  ⟨0xB99, lo, lo⟩, ⟨0xB9B, lo, cn⟩, ⟨0xB9E, lo, lo⟩, ⟨0xBA0, cn, cn⟩, ⟨0xBA3, lo, lo⟩,
  ⟨0xBA5, cn, cn⟩, ⟨0xBA8, lo, lo⟩, ⟨0xBAB, cn, cn⟩, ⟨0xBAE, lo, lo⟩, ⟨0xBBA, cn, cn⟩,
  ⟨0xBBE, mc, mc⟩, ⟨0xBC0, mn, mn⟩, ⟨0xBC1, mc, mc⟩, ⟨0xBC3, cn, cn⟩, ⟨0xBC6, mc, mc⟩,
  ⟨0xBC9, cn, cn⟩, ⟨0xBCA, mc, mc⟩, ⟨0xBCD, mn, mn⟩, ⟨0xBCE, cn, cn⟩, ⟨0xBD0, lo, lo⟩,
  ⟨0xBD1, cn, cn⟩, ⟨0xBD7, mc, mc⟩, ⟨0xBD8, cn, cn⟩, ⟨0xBE6, nd, nd⟩, ⟨0xBF0, no, no⟩,
  ⟨0xBF3, so, so⟩, ⟨0xBF9, sc, sc⟩, ⟨0xBFA, so, so⟩, ⟨0xBFB, cn, cn⟩]

def CategoryTable.runs00C00 : List CategoryRun := [
  ⟨0xC00, mn, mn⟩, ⟨0xC01, mc, mc⟩, ⟨0xC04, mn, mn⟩, ⟨0xC05, lo, lo⟩, ⟨0xC0D, cn, cn⟩,
  ⟨0xC0E, lo, lo⟩, ⟨0xC11, cn, cn⟩, ⟨0xC12, lo, lo⟩, ⟨0xC29, cn, cn⟩, ⟨0xC2A, lo, lo⟩,
  ⟨0xC3A, cn, cn⟩, ⟨0xC3C, mn, mn⟩, ⟨0xC3D, lo, lo⟩, ⟨0xC3E, mn, mn⟩, ⟨0xC41, mc, mc⟩,
  ⟨0xC45, cn, cn⟩, ⟨0xC46, mn, mn⟩, ⟨0xC49, cn, cn⟩, ⟨0xC4A, mn, mn⟩, ⟨0xC4E, cn, cn⟩,
  ⟨0xC55, mn, mn⟩, ⟨0xC57, cn, cn⟩, ⟨0xC58, lo, lo⟩, ⟨0xC5B, cn, cn⟩, ⟨0xC5D, lo, lo⟩,
  ⟨0xC5E, cn, cn⟩, ⟨0xC60, lo, lo⟩, ⟨0xC62, mn, mn⟩, ⟨0xC64, cn, cn⟩, ⟨0xC66, nd, nd⟩,
  ⟨0xC70, cn, cn⟩, ⟨0xC77, po, po⟩, ⟨0xC78, no, no⟩, ⟨0xC7F, so, so⟩, ⟨0xC80, lo, lo⟩,
  ⟨0xC81, mn, mn⟩, ⟨0xC82, mc, mc⟩, ⟨0xC84, po, po⟩, ⟨0xC85, lo, lo⟩, ⟨0xC8D, cn, cn⟩,
  ⟨0xC8E, lo, lo⟩, ⟨0xC91, cn, cn⟩, ⟨0xC92, lo, lo⟩, ⟨0xCA9, cn, cn⟩, ⟨0xCAA, lo, lo⟩,
  ⟨0xCB4, cn, cn⟩, ⟨0xCB5, lo, lo⟩, ⟨0xCBA, cn, cn⟩, ⟨0xCBC, mn, mn⟩, ⟨0xCBD, lo, lo⟩,
  ⟨0xCBE, mc, mc⟩, ⟨0xCBF, mn, mn⟩, ⟨0xCC0, mc, mc⟩, ⟨0xCC5, cn, cn⟩, ⟨0xCC6, mn, mn⟩,
  ⟨0xCC7, mc, mc⟩, ⟨0xCC9, cn, cn⟩, ⟨0xCCA, mc, mc⟩, ⟨0xCCC, mn, mn⟩, ⟨0xCCE, cn, cn⟩,
  ⟨0xCD5, mc, mc⟩, ⟨0xCD7, cn, cn⟩, ⟨0xCDD, lo, lo⟩, ⟨0xCDF, cn, cn⟩]

def CategoryTable.runs00CE0 : List CategoryRun := [
  ⟨0xCE0, lo, lo⟩, ⟨0xCE2, mn, mn⟩, ⟨0xCE4, cn, cn⟩, ⟨0xCE6, nd, nd⟩, ⟨0xCF0, cn, cn⟩,
  ⟨0xCF1, lo, lo⟩, ⟨0xCF3, mc, mc⟩, ⟨0xCF4, cn, cn⟩, ⟨0xD00, mn, mn⟩, ⟨0xD02, mc, mc⟩,
  ⟨0xD04, lo, lo⟩, ⟨0xD0D, cn, cn⟩, ⟨0xD0E, lo, lo⟩, ⟨0xD11, cn, cn⟩, ⟨0xD12, lo, lo⟩,
  ⟨0xD3B, mn, mn⟩, ⟨0xD3D, lo, lo⟩, ⟨0xD3E, mc, mc⟩, ⟨0xD41, mn, mn⟩, ⟨0xD45, cn, cn⟩,
  ⟨0xD46, mc, mc⟩, ⟨0xD49, cn, cn⟩, ⟨0xD4A, mc, mc⟩, ⟨0xD4D, mn, mn⟩, ⟨0xD4E, lo, lo⟩,
  ⟨0xD4F, so, so⟩, ⟨0xD50, cn, cn⟩, ⟨0xD54, lo, lo⟩, ⟨0xD57, mc, mc⟩, ⟨0xD58, no, no⟩,
  ⟨0xD5F, lo, lo⟩, ⟨0xD62, mn, mn⟩, ⟨0xD64, cn, cn⟩, ⟨0xD66, nd, nd⟩, ⟨0xD70, no, no⟩,
  ⟨0xD79, so, so⟩, ⟨0xD7A, lo, lo⟩, ⟨0xD80, cn, cn⟩, ⟨0xD81, mn, mn⟩, ⟨0xD82, mc, mc⟩,
  ⟨0xD84, cn, cn⟩, ⟨0xD85, lo, lo⟩, ⟨0xD97, cn, cn⟩, ⟨0xD9A, lo, lo⟩, ⟨0xDB2, cn, cn⟩,
  ⟨0xDB3, lo, lo⟩, ⟨0xDBC, cn, cn⟩, ⟨0xDBD, lo, lo⟩, ⟨0xDBE, cn, cn⟩, ⟨0xDC0, lo, lo⟩,
  ⟨0xDC7, cn, cn⟩, ⟨0xDCA, mn, mn⟩, ⟨0xDCB, cn, cn⟩, ⟨0xDCF, mc, mc⟩, ⟨0xDD2, mn, mn⟩,
  ⟨0xDD5, cn, cn⟩, ⟨0xDD6, mn, mn⟩, ⟨0xDD7, cn, cn⟩, ⟨0xDD8, mc, mc⟩, ⟨0xDE0, cn, cn⟩,
  ⟨0xDE6, nd, nd⟩, ⟨0xDF0, cn, cn⟩, ⟨0xDF2, mc, mc⟩, ⟨0xDF4, po, po⟩]

def CategoryTable.runs00DF5 : List CategoryRun := [
  ⟨0xDF5, cn, cn⟩, ⟨0xE01, lo, lo⟩, ⟨0xE31, mn, mn⟩, ⟨0xE32, lo, lo⟩, ⟨0xE34, mn, mn⟩,
  ⟨0xE3B, cn, cn⟩, ⟨0xE3F, sc, sc⟩, ⟨0xE40, lo, lo⟩, ⟨0xE46, lm, lm⟩, ⟨0xE47, mn, mn⟩,
  ⟨0xE4F, po, po⟩, ⟨0xE50, nd, nd⟩, ⟨0xE5A, po, po⟩, ⟨0xE5C, cn, cn⟩, ⟨0xE81, lo, lo⟩,
  ⟨0xE83, lo, cn⟩, ⟨0xE86, lo, lo⟩, ⟨0xE8B, cn, cn⟩, ⟨0xE8C, lo, lo⟩, ⟨0xEA4, cn, lo⟩,
  ⟨0xEA7, lo, lo⟩, ⟨0xEB1, mn, mn⟩, ⟨0xEB2, lo, lo⟩, ⟨0xEB4, mn, mn⟩, ⟨0xEBD, lo, lo⟩,
  ⟨0xEBE, cn, cn⟩, ⟨0xEC0, lo, lo⟩, ⟨0xEC5, cn, cn⟩, ⟨0xEC6, lm, lm⟩, ⟨0xEC7, cn, cn⟩,
  ⟨0xEC8, mn, mn⟩, ⟨0xECF, cn, cn⟩, ⟨0xED0, nd, nd⟩, ⟨0xEDA, cn, cn⟩, ⟨0xEDC, lo, lo⟩,
  ⟨0xEE0, cn, cn⟩, ⟨0xF00, lo, lo⟩, ⟨0xF01, so, so⟩, ⟨0xF04, po, po⟩, ⟨0xF13, so, so⟩,
  ⟨0xF14, po, po⟩, ⟨0xF15, so, so⟩, ⟨0xF18, mn, mn⟩, ⟨0xF1A, so, so⟩, ⟨0xF20, nd, nd⟩,
  ⟨0xF2A, no, no⟩, ⟨0xF34, so, mn⟩, ⟨0xF3A, ps, pe⟩, ⟨0xF3E, mc, mc⟩, ⟨0xF40, lo, lo⟩,
  ⟨0xF48, cn, cn⟩, ⟨0xF49, lo, lo⟩, ⟨0xF6D, cn, cn⟩, ⟨0xF71, mn, mn⟩, ⟨0xF7F, mc, mc⟩,
  ⟨0xF80, mn, mn⟩, ⟨0xF85, po, po⟩, ⟨0xF86, mn, mn⟩, ⟨0xF88, lo, lo⟩, ⟨0xF8D, mn, mn⟩,
  ⟨0xF98, cn, cn⟩, ⟨0xF99, mn, mn⟩, ⟨0xFBD, cn, cn⟩, ⟨0xFBE, so, so⟩]

def CategoryTable.runs00FC6 : List CategoryRun := [
  ⟨0xFC6, mn, mn⟩, ⟨0xFC7, so, so⟩, ⟨0xFCD, cn, cn⟩, ⟨0xFCE, so, so⟩, ⟨0xFD0, po, po⟩,
  ⟨0xFD5, so, so⟩, ⟨0xFD9, po, po⟩, ⟨0xFDB, cn, cn⟩, ⟨0x1000, lo, lo⟩, ⟨0x102B, mc, mc⟩,
  ⟨0x102D, mn, mn⟩, ⟨0x1031, mc, mc⟩, ⟨0x1032, mn, mn⟩, ⟨0x1038, mc, mc⟩, ⟨0x1039, mn, mn⟩,
  ⟨0x103B, mc, mc⟩, ⟨0x103D, mn, mn⟩, ⟨0x103F, lo, lo⟩, ⟨0x1040, nd, nd⟩, ⟨0x104A, po, po⟩,
  ⟨0x1050, lo, lo⟩, ⟨0x1056, mc, mc⟩, ⟨0x1058, mn, mn⟩, ⟨0x105A, lo, lo⟩, ⟨0x105E, mn, mn⟩,
  ⟨0x1061, lo, lo⟩, ⟨0x1062, mc, mc⟩, ⟨0x1065, lo, lo⟩, ⟨0x1067, mc, mc⟩, ⟨0x106E, lo, lo⟩,
  ⟨0x1071, mn, mn⟩, ⟨0x1075, lo, lo⟩, ⟨0x1082, mn, mn⟩, ⟨0x1083, mc, mc⟩, ⟨0x1085, mn, mn⟩,
  ⟨0x1087, mc, mc⟩, ⟨0x108D, mn, mn⟩, ⟨0x108E, lo, lo⟩, ⟨0x108F, mc, mc⟩, ⟨0x1090, nd, nd⟩,
  ⟨0x109A, mc, mc⟩, ⟨0x109D, mn, mn⟩, ⟨0x109E, so, so⟩, ⟨0x10A0, lu, lu⟩, ⟨0x10C6, cn, cn⟩,
  ⟨0x10C7, lu, lu⟩, ⟨0x10C8, cn, cn⟩, ⟨0x10CD, lu, lu⟩, ⟨0x10CE, cn, cn⟩, ⟨0x10D0, ll, ll⟩,
  ⟨0x10FB, po, po⟩, ⟨0x10FC, lm, lm⟩, ⟨0x10FD, ll, ll⟩, ⟨0x1100, lo, lo⟩, ⟨0x1249, cn, cn⟩,
  ⟨0x124A, lo, lo⟩, ⟨0x124E, cn, cn⟩, ⟨0x1250, lo, lo⟩, ⟨0x1257, lo, cn⟩, ⟨0x125A, lo, lo⟩,
  ⟨0x125E, cn, cn⟩, ⟨0x1260, lo, lo⟩, ⟨0x1289, cn, cn⟩, ⟨0x128A, lo, lo⟩]

def CategoryTable.runs0128E : List CategoryRun := [
  ⟨0x128E, cn, cn⟩, ⟨0x1290, lo, lo⟩, ⟨0x12B1, cn, cn⟩, ⟨0x12B2, lo, lo⟩, ⟨0x12B6, cn, cn⟩,
  ⟨0x12B8, lo, lo⟩, ⟨0x12BF, lo, cn⟩, ⟨0x12C2, lo, lo⟩, ⟨0x12C6, cn, cn⟩, ⟨0x12C8, lo, lo⟩,
  ⟨0x12D7, cn, cn⟩, ⟨0x12D8, lo, lo⟩, ⟨0x1311, cn, cn⟩, ⟨0x1312, lo, lo⟩, ⟨0x1316, cn, cn⟩,
  ⟨0x1318, lo, lo⟩, ⟨0x135B, cn, cn⟩, ⟨0x135D, mn, mn⟩, ⟨0x1360, po, po⟩, ⟨0x1369, no, no⟩,
  ⟨0x137D, cn, cn⟩, ⟨0x1380, lo, lo⟩, ⟨0x1390, so, so⟩, ⟨0x139A, cn, cn⟩, ⟨0x13A0, lu, lu⟩,
  ⟨0x13F6, cn, cn⟩, ⟨0x13F8, ll, ll⟩, ⟨0x13FE, cn, cn⟩, ⟨0x1400, pd, pd⟩, ⟨0x1401, lo, lo⟩,
  ⟨0x166D, so, so⟩, ⟨0x166E, po, po⟩, ⟨0x166F, lo, lo⟩, ⟨0x1680, zs, zs⟩, ⟨0x1681, lo, lo⟩,
  ⟨0x169B, ps, ps⟩, ⟨0x169C, pe, pe⟩, ⟨0x169D, cn, cn⟩, ⟨0x16A0, lo, lo⟩, ⟨0x16EB, po, po⟩,
  ⟨0x16EE, nl, nl⟩, ⟨0x16F1, lo, lo⟩, ⟨0x16F9, cn, cn⟩, ⟨0x1700, lo, lo⟩, ⟨0x1712, mn, mn⟩,
  ⟨0x1715, mc, mc⟩, ⟨0x1716, cn, cn⟩, ⟨0x171F, lo, lo⟩, ⟨0x1732, mn, mn⟩, ⟨0x1734, mc, mc⟩,
  ⟨0x1735, po, po⟩, ⟨0x1737, cn, cn⟩, ⟨0x1740, lo, lo⟩, ⟨0x1752, mn, mn⟩, ⟨0x1754, cn, cn⟩,
  ⟨0x1760, lo, lo⟩, ⟨0x176D, cn, cn⟩, ⟨0x176E, lo, lo⟩, ⟨0x1771, cn, cn⟩, ⟨0x1772, mn, mn⟩,
  ⟨0x1774, cn, cn⟩, ⟨0x1780, lo, lo⟩, ⟨0x17B4, mn, mn⟩, ⟨0x17B6, mc, mc⟩]

def CategoryTable.runs017B7 : List CategoryRun := [
  ⟨0x17B7, mn, mn⟩, ⟨0x17BE, mc, mc⟩, ⟨0x17C6, mn, mn⟩, ⟨0x17C7, mc, mc⟩, ⟨0x17C9, mn, mn⟩,
  ⟨0x17D4, po, po⟩, ⟨0x17D7, lm, lm⟩, ⟨0x17D8, po, po⟩, ⟨0x17DB, sc, sc⟩, ⟨0x17DC, lo, lo⟩,
  ⟨0x17DD, mn, mn⟩, ⟨0x17DE, cn, cn⟩, ⟨0x17E0, nd, nd⟩, ⟨0x17EA, cn, cn⟩, ⟨0x17F0, no, no⟩,
  ⟨0x17FA, cn, cn⟩, ⟨0x1800, po, po⟩, ⟨0x1806, pd, pd⟩, ⟨0x1807, po, po⟩, ⟨0x180B, mn, mn⟩,
  ⟨0x180E, cf, cf⟩, ⟨0x180F, mn, mn⟩, ⟨0x1810, nd, nd⟩, ⟨0x181A, cn, cn⟩, ⟨0x1820, lo, lo⟩,
  ⟨0x1843, lm, lm⟩, ⟨0x1844, lo, lo⟩, ⟨0x1879, cn, cn⟩, ⟨0x1880, lo, lo⟩, ⟨0x1885, mn, mn⟩,
  ⟨0x1887, lo, lo⟩, ⟨0x18A9, mn, mn⟩, ⟨0x18AA, lo, lo⟩, ⟨0x18AB, cn, cn⟩, ⟨0x18B0, lo, lo⟩,
  ⟨0x18F6, cn, cn⟩, ⟨0x1900, lo, lo⟩, ⟨0x191F, cn, cn⟩, ⟨0x1920, mn, mn⟩, ⟨0x1923, mc, mc⟩,
  ⟨0x1927, mn, mn⟩, ⟨0x1929, mc, mc⟩, ⟨0x192C, cn, cn⟩, ⟨0x1930, mc, mc⟩, ⟨0x1932, mn, mn⟩,
  ⟨0x1933, mc, mc⟩, ⟨0x1939, mn, mn⟩, ⟨0x193C, cn, cn⟩, ⟨0x1940, so, so⟩, ⟨0x1941, cn, cn⟩,
  ⟨0x1944, po, po⟩, ⟨0x1946, nd, nd⟩, ⟨0x1950, lo, lo⟩, ⟨0x196E, cn, cn⟩, ⟨0x1970, lo, lo⟩,
  ⟨0x1975, cn, cn⟩, ⟨0x1980, lo, lo⟩, ⟨0x19AC, cn, cn⟩, ⟨0x19B0, lo, lo⟩, ⟨0x19CA, cn, cn⟩,
  ⟨0x19D0, nd, nd⟩, ⟨0x19DA, no, no⟩, ⟨0x19DB, cn, cn⟩, ⟨0x19DE, so, so⟩]

def CategoryTable.runs01A00 : List CategoryRun := [
  ⟨0x1A00, lo, lo⟩, ⟨0x1A17, mn, mn⟩, ⟨0x1A19, mc, mc⟩, ⟨0x1A1B, mn, mn⟩, ⟨0x1A1C, cn, cn⟩,
  ⟨0x1A1E, po, po⟩, ⟨0x1A20, lo, lo⟩, ⟨0x1A55, mn, mc⟩, ⟨0x1A58, mn, mn⟩, ⟨0x1A5F, cn, cn⟩,
  ⟨0x1A60, mn, mc⟩, ⟨0x1A63, mc, mc⟩, ⟨0x1A65, mn, mn⟩, ⟨0x1A6D, mc, mc⟩, ⟨0x1A73, mn, mn⟩,
  ⟨0x1A7D, cn, cn⟩, ⟨0x1A7F, mn, mn⟩, ⟨0x1A80, nd, nd⟩, ⟨0x1A8A, cn, cn⟩, ⟨0x1A90, nd, nd⟩,
  ⟨0x1A9A, cn, cn⟩, ⟨0x1AA0, po, po⟩, ⟨0x1AA7, lm, lm⟩, ⟨0x1AA8, po, po⟩, ⟨0x1AAE, cn, cn⟩,
  ⟨0x1AB0, mn, mn⟩, ⟨0x1ABE, me, me⟩, ⟨0x1ABF, mn, mn⟩, ⟨0x1ACF, cn, cn⟩, ⟨0x1B00, mn, mn⟩,
  ⟨0x1B04, mc, mc⟩, ⟨0x1B05, lo, lo⟩, ⟨0x1B34, mn, mn⟩, ⟨0x1B35, mc, mc⟩, ⟨0x1B36, mn, mn⟩,
  ⟨0x1B3B, mc, mc⟩, ⟨0x1B3C, mn, mn⟩, ⟨0x1B3D, mc, mc⟩, ⟨0x1B42, mn, mn⟩, ⟨0x1B43, mc, mc⟩,
  ⟨0x1B45, lo, lo⟩, ⟨0x1B4D, cn, cn⟩, ⟨0x1B4E, po, po⟩, ⟨0x1B50, nd, nd⟩, ⟨0x1B5A, po, po⟩,
  ⟨0x1B61, so, so⟩, ⟨0x1B6B, mn, mn⟩, ⟨0x1B74, so, so⟩, ⟨0x1B7D, po, po⟩, ⟨0x1B80, mn, mn⟩,
  ⟨0x1B82, mc, mc⟩, ⟨0x1B83, lo, lo⟩, ⟨0x1BA1, mc, mc⟩, ⟨0x1BA2, mn, mn⟩, ⟨0x1BA6, mc, mc⟩,
  ⟨0x1BA8, mn, mn⟩, ⟨0x1BAA, mc, mc⟩, ⟨0x1BAB, mn, mn⟩, ⟨0x1BAE, lo, lo⟩, ⟨0x1BB0, nd, nd⟩,
  ⟨0x1BBA, lo, lo⟩, ⟨0x1BE6, mn, mn⟩, ⟨0x1BE7, mc, mc⟩, ⟨0x1BE8, mn, mn⟩]

def CategoryTable.runs01BEA : List CategoryRun := [
  ⟨0x1BEA, mc, mc⟩, ⟨0x1BED, mn, mn⟩, ⟨0x1BEE, mc, mc⟩, ⟨0x1BEF, mn, mn⟩, ⟨0x1BF2, mc, mc⟩,
  ⟨0x1BF4, cn, cn⟩, ⟨0x1BFC, po, po⟩, ⟨0x1C00, lo, lo⟩, ⟨0x1C24, mc, mc⟩, ⟨0x1C2C, mn, mn⟩,
  ⟨0x1C34, mc, mc⟩, ⟨0x1C36, mn, mn⟩, ⟨0x1C38, cn, cn⟩, ⟨0x1C3B, po, po⟩, ⟨0x1C40, nd, nd⟩,
  ⟨0x1C4A, cn, cn⟩, ⟨0x1C4D, lo, lo⟩, ⟨0x1C50, nd, nd⟩, ⟨0x1C5A, lo, lo⟩, ⟨0x1C78, lm, lm⟩,
  ⟨0x1C7E, po, po⟩, ⟨0x1C80, ll, ll⟩, ⟨0x1C89, lu, lu⟩, ⟨0x1C8A, ll, ll⟩, ⟨0x1C8B, cn, cn⟩,
  ⟨0x1C90, lu, lu⟩, ⟨0x1CBB, cn, cn⟩, ⟨0x1CBD, lu, lu⟩, ⟨0x1CC0, po, po⟩, ⟨0x1CC8, cn, cn⟩,
  ⟨0x1CD0, mn, mn⟩, ⟨0x1CD3, po, po⟩, ⟨0x1CD4, mn, mn⟩, ⟨0x1CE1, mc, mc⟩, ⟨0x1CE2, mn, mn⟩,
  ⟨0x1CE9, lo, lo⟩, ⟨0x1CED, mn, mn⟩, ⟨0x1CEE, lo, lo⟩, ⟨0x1CF4, mn, mn⟩, ⟨0x1CF5, lo, lo⟩,
  ⟨0x1CF7, mc, mc⟩, ⟨0x1CF8, mn, mn⟩, ⟨0x1CFA, lo, lo⟩, ⟨0x1CFB, cn, cn⟩, ⟨0x1D00, ll, ll⟩,
  ⟨0x1D2C, lm, lm⟩, ⟨0x1D6B, ll, ll⟩, ⟨0x1D78, lm, lm⟩, ⟨0x1D79, ll, ll⟩, ⟨0x1D9B, lm, lm⟩,
  ⟨0x1DC0, mn, mn⟩, ⟨0x1E00, lu, ll⟩, ⟨0x1E95, ll, ll⟩, ⟨0x1E9E, lu, ll⟩, ⟨0x1EFF, ll, ll⟩,
  ⟨0x1F08, lu, lu⟩, ⟨0x1F10, ll, ll⟩, ⟨0x1F16, cn, cn⟩, ⟨0x1F18, lu, lu⟩, ⟨0x1F1E, cn, cn⟩,
  ⟨0x1F20, ll, ll⟩, ⟨0x1F28, lu, lu⟩, ⟨0x1F30, ll, ll⟩, ⟨0x1F38, lu, lu⟩]

def CategoryTable.runs01F40 : List CategoryRun := [
  ⟨0x1F40, ll, ll⟩, ⟨0x1F46, cn, cn⟩, ⟨0x1F48, lu, lu⟩, ⟨0x1F4E, cn, cn⟩, ⟨0x1F50, ll, ll⟩,
  ⟨0x1F58, cn, lu⟩, ⟨0x1F60, ll, ll⟩, ⟨0x1F68, lu, lu⟩, ⟨0x1F70, ll, ll⟩, ⟨0x1F7E, cn, cn⟩,
  ⟨0x1F80, ll, ll⟩, ⟨0x1F88, lt, lt⟩, ⟨0x1F90, ll, ll⟩, ⟨0x1F98, lt, lt⟩, ⟨0x1FA0, ll, ll⟩,
  ⟨0x1FA8, lt, lt⟩, ⟨0x1FB0, ll, ll⟩, ⟨0x1FB5, cn, cn⟩, ⟨0x1FB6, ll, ll⟩, ⟨0x1FB8, lu, lu⟩,
  ⟨0x1FBC, lt, lt⟩, ⟨0x1FBD, sk, sk⟩, ⟨0x1FBE, ll, ll⟩, ⟨0x1FBF, sk, sk⟩, ⟨0x1FC2, ll, ll⟩,
  ⟨0x1FC5, cn, cn⟩, ⟨0x1FC6, ll, ll⟩, ⟨0x1FC8, lu, lu⟩, ⟨0x1FCC, lt, lt⟩, ⟨0x1FCD, sk, sk⟩,
  ⟨0x1FD0, ll, ll⟩, ⟨0x1FD4, cn, cn⟩, ⟨0x1FD6, ll, ll⟩, ⟨0x1FD8, lu, lu⟩, ⟨0x1FDC, cn, cn⟩,
  ⟨0x1FDD, sk, sk⟩, ⟨0x1FE0, ll, ll⟩, ⟨0x1FE8, lu, lu⟩, ⟨0x1FED, sk, sk⟩, ⟨0x1FF0, cn, cn⟩,
  ⟨0x1FF2, ll, ll⟩, ⟨0x1FF5, cn, cn⟩, ⟨0x1FF6, ll, ll⟩, ⟨0x1FF8, lu, lu⟩, ⟨0x1FFC, lt, lt⟩,
  ⟨0x1FFD, sk, sk⟩, ⟨0x1FFF, cn, cn⟩, ⟨0x2000, zs, zs⟩, ⟨0x200B, cf, cf⟩, ⟨0x2010, pd, pd⟩,
  ⟨0x2016, po, po⟩, ⟨0x2018, pi, pi⟩, ⟨0x2019, pf, pf⟩, ⟨0x201A, ps, ps⟩, ⟨0x201B, pi, pi⟩,
  ⟨0x201D, pf, pf⟩, ⟨0x201E, ps, ps⟩, ⟨0x201F, pi, pi⟩, ⟨0x2020, po, po⟩, ⟨0x2028, zl, zl⟩,
  ⟨0x2029, zp, zp⟩, ⟨0x202A, cf, cf⟩, ⟨0x202F, zs, zs⟩, ⟨0x2030, po, po⟩]

def CategoryTable.runs02039 : List CategoryRun := [
  ⟨0x2039, pi, pi⟩, ⟨0x203A, pf, pf⟩, ⟨0x203B, po, po⟩, ⟨0x203F, pc, pc⟩, ⟨0x2041, po, po⟩,
  ⟨0x2044, sm, sm⟩, ⟨0x2045, ps, ps⟩, ⟨0x2046, pe, pe⟩, ⟨0x2047, po, po⟩, ⟨0x2052, sm, sm⟩,
  ⟨0x2053, po, po⟩, ⟨0x2054, pc, pc⟩, ⟨0x2055, po, po⟩, ⟨0x205F, zs, zs⟩, ⟨0x2060, cf, cf⟩,
  ⟨0x2065, cn, cn⟩, ⟨0x2066, cf, cf⟩, ⟨0x2070, no, no⟩, ⟨0x2071, lm, lm⟩, ⟨0x2072, cn, cn⟩,
  ⟨0x2074, no, no⟩, ⟨0x207A, sm, sm⟩, ⟨0x207D, ps, ps⟩, ⟨0x207E, pe, pe⟩, ⟨0x207F, lm, lm⟩,
  ⟨0x2080, no, no⟩, ⟨0x208A, sm, sm⟩, ⟨0x208D, ps, ps⟩, ⟨0x208E, pe, pe⟩, ⟨0x208F, cn, cn⟩,
  ⟨0x2090, lm, lm⟩, ⟨0x209D, cn, cn⟩, ⟨0x20A0, sc, sc⟩, ⟨0x20C1, cn, cn⟩, ⟨0x20D0, mn, mn⟩,
  ⟨0x20DD, me, me⟩, ⟨0x20E1, mn, mn⟩, ⟨0x20E2, me, me⟩, ⟨0x20E5, mn, mn⟩, ⟨0x20F1, cn, cn⟩,
  ⟨0x2100, so, so⟩, ⟨0x2102, lu, lu⟩, ⟨0x2103, so, so⟩, ⟨0x2107, lu, lu⟩, ⟨0x2108, so, so⟩,
  ⟨0x210A, ll, ll⟩, ⟨0x210B, lu, lu⟩, ⟨0x210E, ll, ll⟩, ⟨0x2110, lu, lu⟩, ⟨0x2113, ll, ll⟩,
  ⟨0x2114, so, so⟩, ⟨0x2115, lu, lu⟩, ⟨0x2116, so, so⟩, ⟨0x2118, sm, sm⟩, ⟨0x2119, lu, lu⟩,
  ⟨0x211E, so, so⟩, ⟨0x2124, lu, so⟩, ⟨0x212A, lu, lu⟩, ⟨0x212E, so, so⟩, ⟨0x212F, ll, ll⟩,
  ⟨0x2130, lu, lu⟩, ⟨0x2134, ll, ll⟩, ⟨0x2135, lo, lo⟩, ⟨0x2139, ll, ll⟩]

def CategoryTable.runs0213A : List CategoryRun := [
  ⟨0x213A, so, so⟩, ⟨0x213C, ll, ll⟩, ⟨0x213E, lu, lu⟩, ⟨0x2140, sm, sm⟩, ⟨0x2145, lu, lu⟩,
  ⟨0x2146, ll, ll⟩, ⟨0x214A, so, so⟩, ⟨0x214B, sm, sm⟩, ⟨0x214C, so, so⟩, ⟨0x214E, ll, ll⟩,
  ⟨0x214F, so, so⟩, ⟨0x2150, no, no⟩, ⟨0x2160, nl, nl⟩, ⟨0x2183, lu, lu⟩, ⟨0x2184, ll, ll⟩,
  ⟨0x2185, nl, nl⟩, ⟨0x2189, no, no⟩, ⟨0x218A, so, so⟩, ⟨0x218C, cn, cn⟩, ⟨0x2190, sm, sm⟩,
  ⟨0x2195, so, so⟩, ⟨0x219A, sm, sm⟩, ⟨0x219C, so, so⟩, ⟨0x21A0, sm, sm⟩, ⟨0x21A1, so, so⟩,
  ⟨0x21A3, sm, sm⟩, ⟨0x21A4, so, so⟩, ⟨0x21A6, sm, sm⟩, ⟨0x21A7, so, so⟩, ⟨0x21AE, sm, sm⟩,
  ⟨0x21AF, so, so⟩, ⟨0x21CE, sm, sm⟩, ⟨0x21D0, so, so⟩, ⟨0x21D2, sm, so⟩, ⟨0x21D5, so, so⟩,
  ⟨0x21F4, sm, sm⟩, ⟨0x2300, so, so⟩, ⟨0x2308, ps, pe⟩, ⟨0x230C, so, so⟩, ⟨0x2320, sm, sm⟩,
  ⟨0x2322, so, so⟩, ⟨0x2329, ps, ps⟩, ⟨0x232A, pe, pe⟩, ⟨0x232B, so, so⟩, ⟨0x237C, sm, sm⟩,
  ⟨0x237D, so, so⟩, ⟨0x239B, sm, sm⟩, ⟨0x23B4, so, so⟩, ⟨0x23DC, sm, sm⟩, ⟨0x23E2, so, so⟩,
  ⟨0x242A, cn, cn⟩, ⟨0x2440, so, so⟩, ⟨0x244B, cn, cn⟩, ⟨0x2460, no, no⟩, ⟨0x249C, so, so⟩,
  ⟨0x24EA, no, no⟩, ⟨0x2500, so, so⟩, ⟨0x25B7, sm, sm⟩, ⟨0x25B8, so, so⟩, ⟨0x25C1, sm, sm⟩,
  ⟨0x25C2, so, so⟩, ⟨0x25F8, sm, sm⟩, ⟨0x2600, so, so⟩, ⟨0x266F, sm, sm⟩]

def CategoryTable.runs02670 : List CategoryRun := [
  ⟨0x2670, so, so⟩, ⟨0x2768, ps, pe⟩, ⟨0x2776, no, no⟩, ⟨0x2794, so, so⟩, ⟨0x27C0, sm, sm⟩,
  ⟨0x27C5, ps, ps⟩, ⟨0x27C6, pe, pe⟩, ⟨0x27C7, sm, sm⟩, ⟨0x27E6, ps, pe⟩, ⟨0x27F0, sm, sm⟩,
  ⟨0x2800, so, so⟩, ⟨0x2900, sm, sm⟩, ⟨0x2983, pe, ps⟩, ⟨0x2999, sm, sm⟩, ⟨0x29D8, ps, pe⟩,
  ⟨0x29DC, sm, sm⟩, ⟨0x29FC, ps, ps⟩, ⟨0x29FD, pe, pe⟩, ⟨0x29FE, sm, sm⟩, ⟨0x2B00, so, so⟩,
  ⟨0x2B30, sm, sm⟩, ⟨0x2B45, so, so⟩, ⟨0x2B47, sm, sm⟩, ⟨0x2B4D, so, so⟩, ⟨0x2B74, cn, cn⟩,
  ⟨0x2B76, so, so⟩, ⟨0x2B96, cn, cn⟩, ⟨0x2B97, so, so⟩, ⟨0x2C00, lu, lu⟩, ⟨0x2C30, ll, ll⟩,
  ⟨0x2C60, lu, lu⟩, ⟨0x2C61, ll, ll⟩, ⟨0x2C62, lu, lu⟩, ⟨0x2C65, ll, ll⟩, ⟨0x2C67, ll, lu⟩,
  ⟨0x2C6D, lu, lu⟩, ⟨0x2C71, ll, ll⟩, ⟨0x2C72, lu, lu⟩, ⟨0x2C73, ll, ll⟩, ⟨0x2C75, lu, lu⟩,
  ⟨0x2C76, ll, ll⟩, ⟨0x2C7C, lm, lm⟩, ⟨0x2C7E, lu, lu⟩, ⟨0x2C81, lu, ll⟩, ⟨0x2CE3, ll, ll⟩,
  ⟨0x2CE5, so, so⟩, ⟨0x2CEB, ll, lu⟩, ⟨0x2CEF, mn, mn⟩, ⟨0x2CF2, lu, lu⟩, ⟨0x2CF3, ll, ll⟩,
  ⟨0x2CF4, cn, cn⟩, ⟨0x2CF9, po, po⟩, ⟨0x2CFD, no, no⟩, ⟨0x2CFE, po, po⟩, ⟨0x2D00, ll, ll⟩,
  ⟨0x2D26, cn, cn⟩, ⟨0x2D27, ll, ll⟩, ⟨0x2D28, cn, cn⟩, ⟨0x2D2D, ll, ll⟩, ⟨0x2D2E, cn, cn⟩,
  ⟨0x2D30, lo, lo⟩, ⟨0x2D68, cn, cn⟩, ⟨0x2D6F, lm, lm⟩, ⟨0x2D70, po, po⟩]

def CategoryTable.runs02D71 : List CategoryRun := [
  ⟨0x2D71, cn, cn⟩, ⟨0x2D7F, mn, mn⟩, ⟨0x2D80, lo, lo⟩, ⟨0x2D97, cn, cn⟩, ⟨0x2DA0, lo, lo⟩,
  ⟨0x2DA7, cn, cn⟩, ⟨0x2DA8, lo, lo⟩, ⟨0x2DAF, cn, cn⟩, ⟨0x2DB0, lo, lo⟩, ⟨0x2DB7, cn, cn⟩,
  ⟨0x2DB8, lo, lo⟩, ⟨0x2DBF, cn, cn⟩, ⟨0x2DC0, lo, lo⟩, ⟨0x2DC7, cn, cn⟩, ⟨0x2DC8, lo, lo⟩,
  ⟨0x2DCF, cn, cn⟩, ⟨0x2DD0, lo, lo⟩, ⟨0x2DD7, cn, cn⟩, ⟨0x2DD8, lo, lo⟩, ⟨0x2DDF, cn, cn⟩,
  ⟨0x2DE0, mn, mn⟩, ⟨0x2E00, po, po⟩, ⟨0x2E02, pi, pf⟩, ⟨0x2E06, po, po⟩, ⟨0x2E09, pi, pi⟩,
  ⟨0x2E0A, pf, pf⟩, ⟨0x2E0B, po, po⟩, ⟨0x2E0C, pi, pi⟩, ⟨0x2E0D, pf, pf⟩, ⟨0x2E0E, po, po⟩,
  ⟨0x2E17, pd, pd⟩, ⟨0x2E18, po, po⟩, ⟨0x2E1A, pd, pd⟩, ⟨0x2E1B, po, po⟩, ⟨0x2E1C, pi, pi⟩,
  ⟨0x2E1D, pf, pf⟩, ⟨0x2E1E, po, po⟩, ⟨0x2E20, pi, pi⟩, ⟨0x2E21, pf, pf⟩, ⟨0x2E22, ps, pe⟩,
  ⟨0x2E2A, po, po⟩, ⟨0x2E2F, lm, lm⟩, ⟨0x2E30, po, po⟩, ⟨0x2E3A, pd, pd⟩, ⟨0x2E3C, po, po⟩,
  ⟨0x2E40, pd, pd⟩, ⟨0x2E41, po, po⟩, ⟨0x2E42, ps, ps⟩, ⟨0x2E43, po, po⟩, ⟨0x2E50, so, so⟩,
  ⟨0x2E52, po, po⟩, ⟨0x2E55, pe, ps⟩, ⟨0x2E5D, pd, pd⟩, ⟨0x2E5E, cn, cn⟩, ⟨0x2E80, so, so⟩,
  ⟨0x2E9A, cn, cn⟩, ⟨0x2E9B, so, so⟩, ⟨0x2EF4, cn, cn⟩, ⟨0x2F00, so, so⟩, ⟨0x2FD6, cn, cn⟩,
  ⟨0x2FF0, so, so⟩, ⟨0x3000, zs, zs⟩, ⟨0x3001, po, po⟩, ⟨0x3004, so, so⟩]

def CategoryTable.runs03005 : List CategoryRun := [
  ⟨0x3005, lm, lm⟩, ⟨0x3006, lo, lo⟩, ⟨0x3007, nl, nl⟩, ⟨0x3008, ps, pe⟩, ⟨0x3012, so, so⟩,
  ⟨0x3014, ps, pe⟩, ⟨0x301C, pd, pd⟩, ⟨0x301D, ps, ps⟩, ⟨0x301E, pe, pe⟩, ⟨0x3020, so, so⟩,
  ⟨0x3021, nl, nl⟩, ⟨0x302A, mn, mn⟩, ⟨0x302E, mc, mc⟩, ⟨0x3030, pd, pd⟩, ⟨0x3031, lm, lm⟩,
  ⟨0x3036, so, so⟩, ⟨0x3038, nl, nl⟩, ⟨0x303B, lm, lm⟩, ⟨0x303C, lo, lo⟩, ⟨0x303D, po, po⟩,
  ⟨0x303E, so, so⟩, ⟨0x3040, cn, cn⟩, ⟨0x3041, lo, lo⟩, ⟨0x3097, cn, cn⟩, ⟨0x3099, mn, mn⟩,
  ⟨0x309B, sk, sk⟩, ⟨0x309D, lm, lm⟩, ⟨0x309F, lo, lo⟩, ⟨0x30A0, pd, pd⟩, ⟨0x30A1, lo, lo⟩,
  ⟨0x30FB, po, po⟩, ⟨0x30FC, lm, lm⟩, ⟨0x30FF, lo, lo⟩, ⟨0x3100, cn, cn⟩, ⟨0x3105, lo, lo⟩,
  ⟨0x3130, cn, cn⟩, ⟨0x3131, lo, lo⟩, ⟨0x318F, cn, cn⟩, ⟨0x3190, so, so⟩, ⟨0x3192, no, no⟩,
  ⟨0x3196, so, so⟩, ⟨0x31A0, lo, lo⟩, ⟨0x31C0, so, so⟩, ⟨0x31E6, cn, cn⟩, ⟨0x31EF, so, so⟩,
  ⟨0x31F0, lo, lo⟩, ⟨0x3200, so, so⟩, ⟨0x321F, cn, cn⟩, ⟨0x3220, no, no⟩, ⟨0x322A, so, so⟩,
  ⟨0x3248, no, no⟩, ⟨0x3250, so, so⟩, ⟨0x3251, no, no⟩, ⟨0x3260, so, so⟩, ⟨0x3280, no, no⟩,
  ⟨0x328A, so, so⟩, ⟨0x32B1, no, no⟩, ⟨0x32C0, so, so⟩, ⟨0x3400, lo, lo⟩, ⟨0x4DC0, so, so⟩,
  ⟨0x4E00, lo, lo⟩, ⟨0xA015, lm, lm⟩, ⟨0xA016, lo, lo⟩, ⟨0xA48D, cn, cn⟩]

def CategoryTable.runs0A490 : List CategoryRun := [
  ⟨0xA490, so, so⟩, ⟨0xA4C7, cn, cn⟩, ⟨0xA4D0, lo, lo⟩, ⟨0xA4F8, lm, lm⟩, ⟨0xA4FE, po, po⟩,
  ⟨0xA500, lo, lo⟩, ⟨0xA60C, lm, lm⟩, ⟨0xA60D, po, po⟩, ⟨0xA610, lo, lo⟩, ⟨0xA620, nd, nd⟩,
  ⟨0xA62A, lo, lo⟩, ⟨0xA62C, cn, cn⟩, ⟨0xA640, lu, ll⟩, ⟨0xA66E, lo, lo⟩, ⟨0xA66F, mn, mn⟩,
  ⟨0xA670, me, me⟩, ⟨0xA673, po, po⟩, ⟨0xA674, mn, mn⟩, ⟨0xA67E, po, po⟩, ⟨0xA67F, lm, lm⟩,
  ⟨0xA680, lu, ll⟩, ⟨0xA69C, lm, lm⟩, ⟨0xA69E, mn, mn⟩, ⟨0xA6A0, lo, lo⟩, ⟨0xA6E6, nl, nl⟩,
  ⟨0xA6F0, mn, mn⟩, ⟨0xA6F2, po, po⟩, ⟨0xA6F8, cn, cn⟩, ⟨0xA700, sk, sk⟩, ⟨0xA717, lm, lm⟩,
  ⟨0xA720, sk, sk⟩, ⟨0xA722, lu, ll⟩, ⟨0xA72F, ll, ll⟩, ⟨0xA732, lu, ll⟩, ⟨0xA770, lm, lm⟩,
  ⟨0xA771, ll, ll⟩, ⟨0xA779, ll, lu⟩, ⟨0xA77D, lu, lu⟩, ⟨0xA77F, lu, ll⟩, ⟨0xA788, lm, lm⟩,
  ⟨0xA789, sk, sk⟩, ⟨0xA78B, ll, lu⟩, ⟨0xA78F, lo, lo⟩, ⟨0xA790, lu, ll⟩, ⟨0xA793, ll, ll⟩,
  ⟨0xA796, lu, ll⟩, ⟨0xA7AA, lu, lu⟩, ⟨0xA7AF, ll, ll⟩, ⟨0xA7B0, lu, lu⟩, ⟨0xA7B5, lu, ll⟩,
  ⟨0xA7C4, lu, lu⟩, ⟨0xA7C8, ll, lu⟩, ⟨0xA7CB, lu, lu⟩, ⟨0xA7CD, ll, ll⟩, ⟨0xA7CE, cn, cn⟩,
  ⟨0xA7D0, lu, lu⟩, ⟨0xA7D1, cn, ll⟩, ⟨0xA7D6, lu, ll⟩, ⟨0xA7DD, cn, cn⟩, ⟨0xA7F2, lm, lm⟩,
  ⟨0xA7F5, lu, lu⟩, ⟨0xA7F6, ll, ll⟩, ⟨0xA7F7, lo, lo⟩, ⟨0xA7F8, lm, lm⟩]

def CategoryTable.runs0A7FA : List CategoryRun := [
  ⟨0xA7FA, ll, ll⟩, ⟨0xA7FB, lo, lo⟩, ⟨0xA802, mn, mn⟩, ⟨0xA803, lo, lo⟩, ⟨0xA806, mn, mn⟩,
  ⟨0xA807, lo, lo⟩, ⟨0xA80B, mn, mn⟩, ⟨0xA80C, lo, lo⟩, ⟨0xA823, mc, mc⟩, ⟨0xA825, mn, mn⟩,
  ⟨0xA827, mc, mc⟩, ⟨0xA828, so, so⟩, ⟨0xA82C, mn, mn⟩, ⟨0xA82D, cn, cn⟩, ⟨0xA830, no, no⟩,
  ⟨0xA836, so, so⟩, ⟨0xA838, sc, sc⟩, ⟨0xA839, so, so⟩, ⟨0xA83A, cn, cn⟩, ⟨0xA840, lo, lo⟩,
  ⟨0xA874, po, po⟩, ⟨0xA878, cn, cn⟩, ⟨0xA880, mc, mc⟩, ⟨0xA882, lo, lo⟩, ⟨0xA8B4, mc, mc⟩,
  ⟨0xA8C4, mn, mn⟩, ⟨0xA8C6, cn, cn⟩, ⟨0xA8CE, po, po⟩, ⟨0xA8D0, nd, nd⟩, ⟨0xA8DA, cn, cn⟩,
  ⟨0xA8E0, mn, mn⟩, ⟨0xA8F2, lo, lo⟩, ⟨0xA8F8, po, po⟩, ⟨0xA8FB, lo, lo⟩, ⟨0xA8FC, po, po⟩,
  ⟨0xA8FD, lo, lo⟩, ⟨0xA8FF, mn, mn⟩, ⟨0xA900, nd, nd⟩, ⟨0xA90A, lo, lo⟩, ⟨0xA926, mn, mn⟩,
  ⟨0xA92E, po, po⟩, ⟨0xA930, lo, lo⟩, ⟨0xA947, mn, mn⟩, ⟨0xA952, mc, mc⟩, ⟨0xA954, cn, cn⟩,
  ⟨0xA95F, po, po⟩, ⟨0xA960, lo, lo⟩, ⟨0xA97D, cn, cn⟩, ⟨0xA980, mn, mn⟩, ⟨0xA983, mc, mc⟩,
  ⟨0xA984, lo, lo⟩, ⟨0xA9B3, mn, mn⟩, ⟨0xA9B4, mc, mc⟩, ⟨0xA9B6, mn, mn⟩, ⟨0xA9BA, mc, mc⟩,
  ⟨0xA9BC, mn, mn⟩, ⟨0xA9BE, mc, mc⟩, ⟨0xA9C1, po, po⟩, ⟨0xA9CE, cn, cn⟩, ⟨0xA9CF, lm, lm⟩,
  ⟨0xA9D0, nd, nd⟩, ⟨0xA9DA, cn, cn⟩, ⟨0xA9DE, po, po⟩, ⟨0xA9E0, lo, lo⟩]

def CategoryTable.runs0A9E5 : List CategoryRun := [
  ⟨0xA9E5, mn, mn⟩, ⟨0xA9E6, lm, lm⟩, ⟨0xA9E7, lo, lo⟩, ⟨0xA9F0, nd, nd⟩, ⟨0xA9FA, lo, lo⟩,
  ⟨0xA9FF, cn, cn⟩, ⟨0xAA00, lo, lo⟩, ⟨0xAA29, mn, mn⟩, ⟨0xAA2F, mc, mc⟩, ⟨0xAA31, mn, mn⟩,
  ⟨0xAA33, mc, mc⟩, ⟨0xAA35, mn, mn⟩, ⟨0xAA37, cn, cn⟩, ⟨0xAA40, lo, lo⟩, ⟨0xAA43, mn, mn⟩,
  ⟨0xAA44, lo, lo⟩, ⟨0xAA4C, mn, mn⟩, ⟨0xAA4D, mc, mc⟩, ⟨0xAA4E, cn, cn⟩, ⟨0xAA50, nd, nd⟩,
  ⟨0xAA5A, cn, cn⟩, ⟨0xAA5C, po, po⟩, ⟨0xAA60, lo, lo⟩, ⟨0xAA70, lm, lm⟩, ⟨0xAA71, lo, lo⟩,
  ⟨0xAA77, so, so⟩, ⟨0xAA7A, lo, lo⟩, ⟨0xAA7B, mc, mc⟩, ⟨0xAA7C, mn, mn⟩, ⟨0xAA7D, mc, mc⟩,
  ⟨0xAA7E, lo, lo⟩, ⟨0xAAB0, mn, mn⟩, ⟨0xAAB1, lo, lo⟩, ⟨0xAAB2, mn, mn⟩, ⟨0xAAB5, lo, lo⟩,
  ⟨0xAAB7, mn, mn⟩, ⟨0xAAB9, lo, lo⟩, ⟨0xAABE, mn, mn⟩, ⟨0xAAC0, lo, lo⟩, ⟨0xAAC1, mn, mn⟩,
  ⟨0xAAC2, lo, lo⟩, ⟨0xAAC3, cn, cn⟩, ⟨0xAADB, lo, lo⟩, ⟨0xAADD, lm, lm⟩, ⟨0xAADE, po, po⟩,
  ⟨0xAAE0, lo, lo⟩, ⟨0xAAEB, mc, mc⟩, ⟨0xAAEC, mn, mn⟩, ⟨0xAAEE, mc, mc⟩, ⟨0xAAF0, po, po⟩,
  ⟨0xAAF2, lo, lo⟩, ⟨0xAAF3, lm, lm⟩, ⟨0xAAF5, mc, mc⟩, ⟨0xAAF6, mn, mn⟩, ⟨0xAAF7, cn, cn⟩,
  ⟨0xAB01, lo, lo⟩, ⟨0xAB07, cn, cn⟩, ⟨0xAB09, lo, lo⟩, ⟨0xAB0F, cn, cn⟩, ⟨0xAB11, lo, lo⟩,
  ⟨0xAB17, cn, cn⟩, ⟨0xAB20, lo, lo⟩, ⟨0xAB27, cn, cn⟩, ⟨0xAB28, lo, lo⟩]

def CategoryTable.runs0AB2F : List CategoryRun := [
  ⟨0xAB2F, cn, cn⟩, ⟨0xAB30, ll, ll⟩, ⟨0xAB5B, sk, sk⟩, ⟨0xAB5C, lm, lm⟩, ⟨0xAB60, ll, ll⟩,
  ⟨0xAB69, lm, lm⟩, ⟨0xAB6A, sk, sk⟩, ⟨0xAB6C, cn, cn⟩, ⟨0xAB70, ll, ll⟩, ⟨0xABC0, lo, lo⟩,
  ⟨0xABE3, mc, mc⟩, ⟨0xABE5, mn, mn⟩, ⟨0xABE6, mc, mc⟩, ⟨0xABE8, mn, mn⟩, ⟨0xABE9, mc, mc⟩,
  ⟨0xABEB, po, po⟩, ⟨0xABEC, mc, mc⟩, ⟨0xABED, mn, mn⟩, ⟨0xABEE, cn, cn⟩, ⟨0xABF0, nd, nd⟩,
  ⟨0xABFA, cn, cn⟩, ⟨0xAC00, lo, lo⟩, ⟨0xD7A4, cn, cn⟩, ⟨0xD7B0, lo, lo⟩, ⟨0xD7C7, cn, cn⟩,
  ⟨0xD7CB, lo, lo⟩, ⟨0xD7FC, cn, cn⟩, ⟨0xD800, cs, cs⟩, ⟨0xE000, co, co⟩, ⟨0xF900, lo, lo⟩,
  ⟨0xFA6E, cn, cn⟩, ⟨0xFA70, lo, lo⟩, ⟨0xFADA, cn, cn⟩, ⟨0xFB00, ll, ll⟩, ⟨0xFB07, cn, cn⟩,
  ⟨0xFB13, ll, ll⟩, ⟨0xFB18, cn, cn⟩, ⟨0xFB1D, lo, lo⟩, ⟨0xFB1E, mn, mn⟩, ⟨0xFB1F, lo, lo⟩,
  ⟨0xFB29, sm, sm⟩, ⟨0xFB2A, lo, lo⟩, ⟨0xFB37, cn, cn⟩, ⟨0xFB38, lo, lo⟩, ⟨0xFB3D, lo, cn⟩,
  ⟨0xFB40, lo, lo⟩, ⟨0xFB42, cn, cn⟩, ⟨0xFB43, lo, lo⟩, ⟨0xFB45, cn, cn⟩, ⟨0xFB46, lo, lo⟩,
  ⟨0xFBB2, sk, sk⟩, ⟨0xFBC3, cn, cn⟩, ⟨0xFBD3, lo, lo⟩, ⟨0xFD3E, pe, pe⟩, ⟨0xFD3F, ps, ps⟩,
  ⟨0xFD40, so, so⟩, ⟨0xFD50, lo, lo⟩, ⟨0xFD90, cn, cn⟩, ⟨0xFD92, lo, lo⟩, ⟨0xFDC8, cn, cn⟩,
  ⟨0xFDCF, so, so⟩, ⟨0xFDD0, cn, cn⟩, ⟨0xFDF0, lo, lo⟩, ⟨0xFDFC, sc, sc⟩]

def CategoryTable.runs0FDFD : List CategoryRun := [
  ⟨0xFDFD, so, so⟩, ⟨0xFE00, mn, mn⟩, ⟨0xFE10, po, po⟩, ⟨0xFE17, ps, ps⟩, ⟨0xFE18, pe, pe⟩,
  ⟨0xFE19, po, po⟩, ⟨0xFE1A, cn, cn⟩, ⟨0xFE20, mn, mn⟩, ⟨0xFE30, po, po⟩, ⟨0xFE31, pd, pd⟩,
  ⟨0xFE33, pc, pc⟩, ⟨0xFE35, pe, ps⟩, ⟨0xFE45, po, po⟩, ⟨0xFE47, ps, ps⟩, ⟨0xFE48, pe, pe⟩,
  ⟨0xFE49, po, po⟩, ⟨0xFE4D, pc, pc⟩, ⟨0xFE50, po, po⟩, ⟨0xFE53, cn, cn⟩, ⟨0xFE54, po, po⟩,
  ⟨0xFE58, pd, pd⟩, ⟨0xFE59, pe, ps⟩, ⟨0xFE5F, po, po⟩, ⟨0xFE62, sm, sm⟩, ⟨0xFE63, pd, pd⟩,
  ⟨0xFE64, sm, sm⟩, ⟨0xFE67, cn, cn⟩, ⟨0xFE68, po, po⟩, ⟨0xFE69, sc, sc⟩, ⟨0xFE6A, po, po⟩,
  ⟨0xFE6C, cn, cn⟩, ⟨0xFE70, lo, lo⟩, ⟨0xFE75, cn, cn⟩, ⟨0xFE76, lo, lo⟩, ⟨0xFEFD, cn, cn⟩,
  ⟨0xFEFF, cf, cf⟩, ⟨0xFF00, cn, cn⟩, ⟨0xFF01, po, po⟩, ⟨0xFF04, sc, sc⟩, ⟨0xFF05, po, po⟩,
  ⟨0xFF08, ps, ps⟩, ⟨0xFF09, pe, pe⟩, ⟨0xFF0A, po, po⟩, ⟨0xFF0B, sm, sm⟩, ⟨0xFF0C, po, po⟩,
  ⟨0xFF0D, pd, pd⟩, ⟨0xFF0E, po, po⟩, ⟨0xFF10, nd, nd⟩, ⟨0xFF1A, po, po⟩, ⟨0xFF1C, sm, sm⟩,
  ⟨0xFF1F, po, po⟩, ⟨0xFF21, lu, lu⟩, ⟨0xFF3B, ps, ps⟩, ⟨0xFF3C, po, po⟩, ⟨0xFF3D, pe, pe⟩,
  ⟨0xFF3E, sk, sk⟩, ⟨0xFF3F, pc, pc⟩, ⟨0xFF40, sk, sk⟩, ⟨0xFF41, ll, ll⟩, ⟨0xFF5B, ps, ps⟩,
  ⟨0xFF5C, sm, sm⟩, ⟨0xFF5D, pe, pe⟩, ⟨0xFF5E, sm, sm⟩, ⟨0xFF5F, ps, ps⟩]

def CategoryTable.runs0FF60 : List CategoryRun := [
  ⟨0xFF60, pe, pe⟩, ⟨0xFF61, po, po⟩, ⟨0xFF62, ps, ps⟩, ⟨0xFF63, pe, pe⟩, ⟨0xFF64, po, po⟩,
  ⟨0xFF66, lo, lo⟩, ⟨0xFF70, lm, lm⟩, ⟨0xFF71, lo, lo⟩, ⟨0xFF9E, lm, lm⟩, ⟨0xFFA0, lo, lo⟩,
  ⟨0xFFBF, cn, cn⟩, ⟨0xFFC2, lo, lo⟩, ⟨0xFFC8, cn, cn⟩, ⟨0xFFCA, lo, lo⟩, ⟨0xFFD0, cn, cn⟩,
  ⟨0xFFD2, lo, lo⟩, ⟨0xFFD8, cn, cn⟩, ⟨0xFFDA, lo, lo⟩, ⟨0xFFDD, cn, cn⟩, ⟨0xFFE0, sc, sc⟩,
  ⟨0xFFE2, sm, sm⟩, ⟨0xFFE3, sk, sk⟩, ⟨0xFFE4, so, so⟩, ⟨0xFFE5, sc, sc⟩, ⟨0xFFE7, cn, cn⟩,
  ⟨0xFFE8, so, so⟩, ⟨0xFFE9, sm, sm⟩, ⟨0xFFED, so, so⟩, ⟨0xFFEF, cn, cn⟩, ⟨0xFFF9, cf, cf⟩,
  ⟨0xFFFC, so, so⟩, ⟨0xFFFE, cn, cn⟩, ⟨0x10000, lo, lo⟩, ⟨0x1000C, cn, cn⟩, ⟨0x1000D, lo, lo⟩,
  ⟨0x10027, cn, cn⟩, ⟨0x10028, lo, lo⟩, ⟨0x1003B, cn, cn⟩, ⟨0x1003C, lo, lo⟩, ⟨0x1003E, cn, cn⟩,
  ⟨0x1003F, lo, lo⟩, ⟨0x1004E, cn, cn⟩, ⟨0x10050, lo, lo⟩, ⟨0x1005E, cn, cn⟩, ⟨0x10080, lo, lo⟩,
  ⟨0x100FB, cn, cn⟩, ⟨0x10100, po, po⟩, ⟨0x10103, cn, cn⟩, ⟨0x10107, no, no⟩, ⟨0x10134, cn, cn⟩,
  ⟨0x10137, so, so⟩, ⟨0x10140, nl, nl⟩, ⟨0x10175, no, no⟩, ⟨0x10179, so, so⟩, ⟨0x1018A, no, no⟩,
  ⟨0x1018C, so, so⟩, ⟨0x1018F, cn, cn⟩, ⟨0x10190, so, so⟩, ⟨0x1019D, cn, cn⟩, ⟨0x101A0, so, so⟩,
  ⟨0x101A1, cn, cn⟩, ⟨0x101D0, so, so⟩, ⟨0x101FD, mn, mn⟩, ⟨0x101FE, cn, cn⟩]

def CategoryTable.runs10280 : List CategoryRun := [
  ⟨0x10280, lo, lo⟩, ⟨0x1029D, cn, cn⟩, ⟨0x102A0, lo, lo⟩, ⟨0x102D1, cn, cn⟩, ⟨0x102E0, mn, mn⟩,
  ⟨0x102E1, no, no⟩, ⟨0x102FC, cn, cn⟩, ⟨0x10300, lo, lo⟩, ⟨0x10320, no, no⟩, ⟨0x10324, cn, cn⟩,
  ⟨0x1032D, lo, lo⟩, ⟨0x10341, nl, nl⟩, ⟨0x10342, lo, lo⟩, ⟨0x1034A, nl, nl⟩, ⟨0x1034B, cn, cn⟩,
  ⟨0x10350, lo, lo⟩, ⟨0x10376, mn, mn⟩, ⟨0x1037B, cn, cn⟩, ⟨0x10380, lo, lo⟩, ⟨0x1039E, cn, cn⟩,
  ⟨0x1039F, po, po⟩, ⟨0x103A0, lo, lo⟩, ⟨0x103C4, cn, cn⟩, ⟨0x103C8, lo, lo⟩, ⟨0x103D0, po, po⟩,
  ⟨0x103D1, nl, nl⟩, ⟨0x103D6, cn, cn⟩, ⟨0x10400, lu, lu⟩, ⟨0x10428, ll, ll⟩, ⟨0x10450, lo, lo⟩,
  ⟨0x1049E, cn, cn⟩, ⟨0x104A0, nd, nd⟩, ⟨0x104AA, cn, cn⟩, ⟨0x104B0, lu, lu⟩, ⟨0x104D4, cn, cn⟩,
  ⟨0x104D8, ll, ll⟩, ⟨0x104FC, cn, cn⟩, ⟨0x10500, lo, lo⟩, ⟨0x10528, cn, cn⟩, ⟨0x10530, lo, lo⟩,
  ⟨0x10564, cn, cn⟩, ⟨0x1056F, po, po⟩, ⟨0x10570, lu, lu⟩, ⟨0x1057B, cn, cn⟩, ⟨0x1057C, lu, lu⟩,
  ⟨0x1058B, cn, cn⟩, ⟨0x1058C, lu, lu⟩, ⟨0x10593, cn, cn⟩, ⟨0x10594, lu, lu⟩, ⟨0x10596, cn, cn⟩,
  ⟨0x10597, ll, ll⟩, ⟨0x105A2, cn, cn⟩, ⟨0x105A3, ll, ll⟩, ⟨0x105B2, cn, cn⟩, ⟨0x105B3, ll, ll⟩,
  ⟨0x105BA, cn, cn⟩, ⟨0x105BB, ll, ll⟩, ⟨0x105BD, cn, cn⟩, ⟨0x105C0, lo, lo⟩, ⟨0x105F4, cn, cn⟩,
  ⟨0x10600, lo, lo⟩, ⟨0x10737, cn, cn⟩, ⟨0x10740, lo, lo⟩, ⟨0x10756, cn, cn⟩]

def CategoryTable.runs10760 : List CategoryRun := [
  ⟨0x10760, lo, lo⟩, ⟨0x10768, cn, cn⟩, ⟨0x10780, lm, lm⟩, ⟨0x10786, cn, cn⟩, ⟨0x10787, lm, lm⟩,
  ⟨0x107B1, cn, cn⟩, ⟨0x107B2, lm, lm⟩, ⟨0x107BB, cn, cn⟩, ⟨0x10800, lo, lo⟩, ⟨0x10806, cn, cn⟩,
  ⟨0x10808, lo, lo⟩, ⟨0x10809, cn, cn⟩, ⟨0x1080A, lo, lo⟩, ⟨0x10836, cn, cn⟩, ⟨0x10837, lo, lo⟩,
  ⟨0x10839, cn, cn⟩, ⟨0x1083C, lo, lo⟩, ⟨0x1083D, cn, cn⟩, ⟨0x1083F, lo, lo⟩, ⟨0x10856, cn, cn⟩,
  ⟨0x10857, po, po⟩, ⟨0x10858, no, no⟩, ⟨0x10860, lo, lo⟩, ⟨0x10877, so, so⟩, ⟨0x10879, no, no⟩,
  ⟨0x10880, lo, lo⟩, ⟨0x1089F, cn, cn⟩, ⟨0x108A7, no, no⟩, ⟨0x108B0, cn, cn⟩, ⟨0x108E0, lo, lo⟩,
  ⟨0x108F3, cn, cn⟩, ⟨0x108F4, lo, lo⟩, ⟨0x108F6, cn, cn⟩, ⟨0x108FB, no, no⟩, ⟨0x10900, lo, lo⟩,
  ⟨0x10916, no, no⟩, ⟨0x1091C, cn, cn⟩, ⟨0x1091F, po, po⟩, ⟨0x10920, lo, lo⟩, ⟨0x1093A, cn, cn⟩,
  ⟨0x1093F, po, po⟩, ⟨0x10940, cn, cn⟩, ⟨0x10980, lo, lo⟩, ⟨0x109B8, cn, cn⟩, ⟨0x109BC, no, no⟩,
  ⟨0x109BE, lo, lo⟩, ⟨0x109C0, no, no⟩, ⟨0x109D0, cn, cn⟩, ⟨0x109D2, no, no⟩, ⟨0x10A00, lo, lo⟩,
  ⟨0x10A01, mn, mn⟩, ⟨0x10A04, cn, cn⟩, ⟨0x10A05, mn, mn⟩, ⟨0x10A07, cn, cn⟩, ⟨0x10A0C, mn, mn⟩,
  ⟨0x10A10, lo, lo⟩, ⟨0x10A14, cn, cn⟩, ⟨0x10A15, lo, lo⟩, ⟨0x10A18, cn, cn⟩, ⟨0x10A19, lo, lo⟩,
  ⟨0x10A36, cn, cn⟩, ⟨0x10A38, mn, mn⟩, ⟨0x10A3B, cn, cn⟩, ⟨0x10A3F, mn, mn⟩]

def CategoryTable.runs10A40 : List CategoryRun := [
  ⟨0x10A40, no, no⟩, ⟨0x10A49, cn, cn⟩, ⟨0x10A50, po, po⟩, ⟨0x10A59, cn, cn⟩, ⟨0x10A60, lo, lo⟩,
  ⟨0x10A7D, no, no⟩, ⟨0x10A7F, po, po⟩, ⟨0x10A80, lo, lo⟩, ⟨0x10A9D, no, no⟩, ⟨0x10AA0, cn, cn⟩,
  ⟨0x10AC0, lo, lo⟩, ⟨0x10AC8, so, so⟩, ⟨0x10AC9, lo, lo⟩, ⟨0x10AE5, mn, mn⟩, ⟨0x10AE7, cn, cn⟩,
  ⟨0x10AEB, no, no⟩, ⟨0x10AF0, po, po⟩, ⟨0x10AF7, cn, cn⟩, ⟨0x10B00, lo, lo⟩, ⟨0x10B36, cn, cn⟩,
  ⟨0x10B39, po, po⟩, ⟨0x10B40, lo, lo⟩, ⟨0x10B56, cn, cn⟩, ⟨0x10B58, no, no⟩, ⟨0x10B60, lo, lo⟩,
  ⟨0x10B73, cn, cn⟩, ⟨0x10B78, no, no⟩, ⟨0x10B80, lo, lo⟩, ⟨0x10B92, cn, cn⟩, ⟨0x10B99, po, po⟩,
  ⟨0x10B9D, cn, cn⟩, ⟨0x10BA9, no, no⟩, ⟨0x10BB0, cn, cn⟩, ⟨0x10C00, lo, lo⟩, ⟨0x10C49, cn, cn⟩,
  ⟨0x10C80, lu, lu⟩, ⟨0x10CB3, cn, cn⟩, ⟨0x10CC0, ll, ll⟩, ⟨0x10CF3, cn, cn⟩, ⟨0x10CFA, no, no⟩,
  ⟨0x10D00, lo, lo⟩, ⟨0x10D24, mn, mn⟩, ⟨0x10D28, cn, cn⟩, ⟨0x10D30, nd, nd⟩, ⟨0x10D3A, cn, cn⟩,
  ⟨0x10D40, nd, nd⟩, ⟨0x10D4A, lo, lo⟩, ⟨0x10D4E, lm, lm⟩, ⟨0x10D4F, lo, lo⟩, ⟨0x10D50, lu, lu⟩,
  ⟨0x10D66, cn, cn⟩, ⟨0x10D69, mn, mn⟩, ⟨0x10D6E, pd, pd⟩, ⟨0x10D6F, lm, lm⟩, ⟨0x10D70, ll, ll⟩,
  ⟨0x10D86, cn, cn⟩, ⟨0x10D8E, sm, sm⟩, ⟨0x10D90, cn, cn⟩, ⟨0x10E60, no, no⟩, ⟨0x10E7F, cn, cn⟩,
  ⟨0x10E80, lo, lo⟩, ⟨0x10EAA, cn, cn⟩, ⟨0x10EAB, mn, mn⟩, ⟨0x10EAD, pd, pd⟩]

def CategoryTable.runs10EAE : List CategoryRun := [
  ⟨0x10EAE, cn, cn⟩, ⟨0x10EB0, lo, lo⟩, ⟨0x10EB2, cn, cn⟩, ⟨0x10EC2, lo, lo⟩, ⟨0x10EC5, cn, cn⟩,
  ⟨0x10EFC, mn, mn⟩, ⟨0x10F00, lo, lo⟩, ⟨0x10F1D, no, no⟩, ⟨0x10F27, lo, lo⟩, ⟨0x10F28, cn, cn⟩,
  ⟨0x10F30, lo, lo⟩, ⟨0x10F46, mn, mn⟩, ⟨0x10F51, no, no⟩, ⟨0x10F55, po, po⟩, ⟨0x10F5A, cn, cn⟩,
  ⟨0x10F70, lo, lo⟩, ⟨0x10F82, mn, mn⟩, ⟨0x10F86, po, po⟩, ⟨0x10F8A, cn, cn⟩, ⟨0x10FB0, lo, lo⟩,
  ⟨0x10FC5, no, no⟩, ⟨0x10FCC, cn, cn⟩, ⟨0x10FE0, lo, lo⟩, ⟨0x10FF7, cn, cn⟩, ⟨0x11000, mc, mc⟩,
  ⟨0x11001, mn, mn⟩, ⟨0x11002, mc, mc⟩, ⟨0x11003, lo, lo⟩, ⟨0x11038, mn, mn⟩, ⟨0x11047, po, po⟩,
  ⟨0x1104E, cn, cn⟩, ⟨0x11052, no, no⟩, ⟨0x11066, nd, nd⟩, ⟨0x11070, mn, mn⟩, ⟨0x11071, lo, lo⟩,
  ⟨0x11073, mn, mn⟩, ⟨0x11075, lo, lo⟩, ⟨0x11076, cn, cn⟩, ⟨0x1107F, mn, mn⟩, ⟨0x11082, mc, mc⟩,
  ⟨0x11083, lo, lo⟩, ⟨0x110B0, mc, mc⟩, ⟨0x110B3, mn, mn⟩, ⟨0x110B7, mc, mc⟩, ⟨0x110B9, mn, mn⟩,
  ⟨0x110BB, po, po⟩, ⟨0x110BD, cf, cf⟩, ⟨0x110BE, po, po⟩, ⟨0x110C2, mn, mn⟩, ⟨0x110C3, cn, cn⟩,
  ⟨0x110CD, cf, cf⟩, ⟨0x110CE, cn, cn⟩, ⟨0x110D0, lo, lo⟩, ⟨0x110E9, cn, cn⟩, ⟨0x110F0, nd, nd⟩,
  ⟨0x110FA, cn, cn⟩, ⟨0x11100, mn, mn⟩, ⟨0x11103, lo, lo⟩, ⟨0x11127, mn, mn⟩, ⟨0x1112C, mc, mc⟩,
  ⟨0x1112D, mn, mn⟩, ⟨0x11135, cn, cn⟩, ⟨0x11136, nd, nd⟩, ⟨0x11140, po, po⟩]

def CategoryTable.runs11144 : List CategoryRun := [
  ⟨0x11144, lo, lo⟩, ⟨0x11145, mc, mc⟩, ⟨0x11147, lo, lo⟩, ⟨0x11148, cn, cn⟩, ⟨0x11150, lo, lo⟩,
  ⟨0x11173, mn, mn⟩, ⟨0x11174, po, po⟩, ⟨0x11176, lo, lo⟩, ⟨0x11177, cn, cn⟩, ⟨0x11180, mn, mn⟩,
  ⟨0x11182, mc, mc⟩, ⟨0x11183, lo, lo⟩, ⟨0x111B3, mc, mc⟩, ⟨0x111B6, mn, mn⟩, ⟨0x111BF, mc, mc⟩,
  ⟨0x111C1, lo, lo⟩, ⟨0x111C5, po, po⟩, ⟨0x111C9, mn, mn⟩, ⟨0x111CD, po, po⟩, ⟨0x111CE, mc, mc⟩,
  ⟨0x111CF, mn, mn⟩, ⟨0x111D0, nd, nd⟩, ⟨0x111DA, lo, po⟩, ⟨0x111DD, po, po⟩, ⟨0x111E0, cn, cn⟩,
  ⟨0x111E1, no, no⟩, ⟨0x111F5, cn, cn⟩, ⟨0x11200, lo, lo⟩, ⟨0x11212, cn, cn⟩, ⟨0x11213, lo, lo⟩,
  ⟨0x1122C, mc, mc⟩, ⟨0x1122F, mn, mn⟩, ⟨0x11232, mc, mc⟩, ⟨0x11234, mn, mn⟩, ⟨0x11235, mc, mc⟩,
  ⟨0x11236, mn, mn⟩, ⟨0x11238, po, po⟩, ⟨0x1123E, mn, mn⟩, ⟨0x1123F, lo, lo⟩, ⟨0x11241, mn, mn⟩,
  ⟨0x11242, cn, cn⟩, ⟨0x11280, lo, lo⟩, ⟨0x11287, lo, cn⟩, ⟨0x1128A, lo, lo⟩, ⟨0x1128E, cn, cn⟩,
  ⟨0x1128F, lo, lo⟩, ⟨0x1129E, cn, cn⟩, ⟨0x1129F, lo, lo⟩, ⟨0x112A9, po, po⟩, ⟨0x112AA, cn, cn⟩,
  ⟨0x112B0, lo, lo⟩, ⟨0x112DF, mn, mn⟩, ⟨0x112E0, mc, mc⟩, ⟨0x112E3, mn, mn⟩, ⟨0x112EB, cn, cn⟩,
  ⟨0x112F0, nd, nd⟩, ⟨0x112FA, cn, cn⟩, ⟨0x11300, mn, mn⟩, ⟨0x11302, mc, mc⟩, ⟨0x11304, cn, cn⟩,
  ⟨0x11305, lo, lo⟩, ⟨0x1130D, cn, cn⟩, ⟨0x1130F, lo, lo⟩, ⟨0x11311, cn, cn⟩]

def CategoryTable.runs11313 : List CategoryRun := [
  ⟨0x11313, lo, lo⟩, ⟨0x11329, cn, cn⟩, ⟨0x1132A, lo, lo⟩, ⟨0x11331, cn, cn⟩, ⟨0x11332, lo, lo⟩,
  ⟨0x11334, cn, cn⟩, ⟨0x11335, lo, lo⟩, ⟨0x1133A, cn, cn⟩, ⟨0x1133B, mn, mn⟩, ⟨0x1133D, lo, lo⟩,
  ⟨0x1133E, mc, mc⟩, ⟨0x11340, mn, mn⟩, ⟨0x11341, mc, mc⟩, ⟨0x11345, cn, cn⟩, ⟨0x11347, mc, mc⟩,
  ⟨0x11349, cn, cn⟩, ⟨0x1134B, mc, mc⟩, ⟨0x1134E, cn, cn⟩, ⟨0x11350, lo, lo⟩, ⟨0x11351, cn, cn⟩,
  ⟨0x11357, mc, mc⟩, ⟨0x11358, cn, cn⟩, ⟨0x1135D, lo, lo⟩, ⟨0x11362, mc, mc⟩, ⟨0x11364, cn, cn⟩,
  ⟨0x11366, mn, mn⟩, ⟨0x1136D, cn, cn⟩, ⟨0x11370, mn, mn⟩, ⟨0x11375, cn, cn⟩, ⟨0x11380, lo, lo⟩,
  ⟨0x1138A, cn, cn⟩, ⟨0x1138B, lo, lo⟩, ⟨0x1138C, cn, cn⟩, ⟨0x1138E, lo, lo⟩, ⟨0x1138F, cn, cn⟩,
  ⟨0x11390, lo, lo⟩, ⟨0x113B6, cn, cn⟩, ⟨0x113B7, lo, lo⟩, ⟨0x113B8, mc, mc⟩, ⟨0x113BB, mn, mn⟩,
  ⟨0x113C1, cn, cn⟩, ⟨0x113C2, mc, mc⟩, ⟨0x113C3, cn, cn⟩, ⟨0x113C5, mc, mc⟩, ⟨0x113C6, cn, cn⟩,
  ⟨0x113C7, mc, mc⟩, ⟨0x113CB, cn, cn⟩, ⟨0x113CC, mc, mc⟩, ⟨0x113CE, mn, mn⟩, ⟨0x113CF, mc, mc⟩,
  ⟨0x113D0, mn, lo⟩, ⟨0x113D4, po, po⟩, ⟨0x113D6, cn, cn⟩, ⟨0x113D7, po, po⟩, ⟨0x113D9, cn, cn⟩,
  ⟨0x113E1, mn, mn⟩, ⟨0x113E3, cn, cn⟩, ⟨0x11400, lo, lo⟩, ⟨0x11435, mc, mc⟩, ⟨0x11438, mn, mn⟩,
  ⟨0x11440, mc, mc⟩, ⟨0x11442, mn, mn⟩, ⟨0x11445, mc, mc⟩, ⟨0x11446, mn, mn⟩]

def CategoryTable.runs11447 : List CategoryRun := [
  ⟨0x11447, lo, lo⟩, ⟨0x1144B, po, po⟩, ⟨0x11450, nd, nd⟩, ⟨0x1145A, po, po⟩, ⟨0x1145C, cn, cn⟩,
  ⟨0x1145D, po, po⟩, ⟨0x1145E, mn, mn⟩, ⟨0x1145F, lo, lo⟩, ⟨0x11462, cn, cn⟩, ⟨0x11480, lo, lo⟩,
  ⟨0x114B0, mc, mc⟩, ⟨0x114B3, mn, mn⟩, ⟨0x114B9, mc, mc⟩, ⟨0x114BA, mn, mn⟩, ⟨0x114BB, mc, mc⟩,
  ⟨0x114BF, mn, mn⟩, ⟨0x114C1, mc, mc⟩, ⟨0x114C2, mn, mn⟩, ⟨0x114C4, lo, lo⟩, ⟨0x114C6, po, po⟩,
  ⟨0x114C7, lo, lo⟩, ⟨0x114C8, cn, cn⟩, ⟨0x114D0, nd, nd⟩, ⟨0x114DA, cn, cn⟩, ⟨0x11580, lo, lo⟩,
  ⟨0x115AF, mc, mc⟩, ⟨0x115B2, mn, mn⟩, ⟨0x115B6, cn, cn⟩, ⟨0x115B8, mc, mc⟩, ⟨0x115BC, mn, mn⟩,
  ⟨0x115BE, mc, mc⟩, ⟨0x115BF, mn, mn⟩, ⟨0x115C1, po, po⟩, ⟨0x115D8, lo, lo⟩, ⟨0x115DC, mn, mn⟩,
  ⟨0x115DE, cn, cn⟩, ⟨0x11600, lo, lo⟩, ⟨0x11630, mc, mc⟩, ⟨0x11633, mn, mn⟩, ⟨0x1163B, mc, mc⟩,
  ⟨0x1163D, mn, mn⟩, ⟨0x1163E, mc, mc⟩, ⟨0x1163F, mn, mn⟩, ⟨0x11641, po, po⟩, ⟨0x11644, lo, lo⟩,
  ⟨0x11645, cn, cn⟩, ⟨0x11650, nd, nd⟩, ⟨0x1165A, cn, cn⟩, ⟨0x11660, po, po⟩, ⟨0x1166D, cn, cn⟩,
  ⟨0x11680, lo, lo⟩, ⟨0x116AB, mc, mn⟩, ⟨0x116AE, mc, mc⟩, ⟨0x116B0, mn, mn⟩, ⟨0x116B6, mc, mc⟩,
  ⟨0x116B7, mn, mn⟩, ⟨0x116B8, lo, lo⟩, ⟨0x116B9, po, po⟩, ⟨0x116BA, cn, cn⟩, ⟨0x116C0, nd, nd⟩,
  ⟨0x116CA, cn, cn⟩, ⟨0x116D0, nd, nd⟩, ⟨0x116E4, cn, cn⟩, ⟨0x11700, lo, lo⟩]

def CategoryTable.runs1171B : List CategoryRun := [
  ⟨0x1171B, cn, cn⟩, ⟨0x1171D, mc, mn⟩, ⟨0x11720, mc, mc⟩, ⟨0x11722, mn, mn⟩, ⟨0x11726, mc, mc⟩,
  ⟨0x11727, mn, mn⟩, ⟨0x1172C, cn, cn⟩, ⟨0x11730, nd, nd⟩, ⟨0x1173A, no, no⟩, ⟨0x1173C, po, po⟩,
  ⟨0x1173F, so, so⟩, ⟨0x11740, lo, lo⟩, ⟨0x11747, cn, cn⟩, ⟨0x11800, lo, lo⟩, ⟨0x1182C, mc, mc⟩,
  ⟨0x1182F, mn, mn⟩, ⟨0x11838, mc, mc⟩, ⟨0x11839, mn, mn⟩, ⟨0x1183B, po, po⟩, ⟨0x1183C, cn, cn⟩,
  ⟨0x118A0, lu, lu⟩, ⟨0x118C0, ll, ll⟩, ⟨0x118E0, nd, nd⟩, ⟨0x118EA, no, no⟩, ⟨0x118F3, cn, cn⟩,
  ⟨0x118FF, lo, lo⟩, ⟨0x11907, cn, cn⟩, ⟨0x11909, lo, lo⟩, ⟨0x1190A, cn, cn⟩, ⟨0x1190C, lo, lo⟩,
  ⟨0x11914, cn, cn⟩, ⟨0x11915, lo, lo⟩, ⟨0x11917, cn, cn⟩, ⟨0x11918, lo, lo⟩, ⟨0x11930, mc, mc⟩,
  ⟨0x11936, cn, cn⟩, ⟨0x11937, mc, mc⟩, ⟨0x11939, cn, cn⟩, ⟨0x1193B, mn, mn⟩, ⟨0x1193D, mc, mc⟩,
  ⟨0x1193E, mn, mn⟩, ⟨0x1193F, mc, lo⟩, ⟨0x11943, mn, mn⟩, ⟨0x11944, po, po⟩, ⟨0x11947, cn, cn⟩,
  ⟨0x11950, nd, nd⟩, ⟨0x1195A, cn, cn⟩, ⟨0x119A0, lo, lo⟩, ⟨0x119A8, cn, cn⟩, ⟨0x119AA, lo, lo⟩,
  ⟨0x119D1, mc, mc⟩, ⟨0x119D4, mn, mn⟩, ⟨0x119D8, cn, cn⟩, ⟨0x119DA, mn, mn⟩, ⟨0x119DC, mc, mc⟩,
  ⟨0x119E0, mn, mn⟩, ⟨0x119E1, lo, lo⟩, ⟨0x119E2, po, po⟩, ⟨0x119E3, lo, lo⟩, ⟨0x119E4, mc, mc⟩,
  ⟨0x119E5, cn, cn⟩, ⟨0x11A00, lo, lo⟩, ⟨0x11A01, mn, mn⟩, ⟨0x11A0B, lo, lo⟩]

def CategoryTable.runs11A33 : List CategoryRun := [
  ⟨0x11A33, mn, mn⟩, ⟨0x11A39, mc, mc⟩, ⟨0x11A3A, lo, lo⟩, ⟨0x11A3B, mn, mn⟩, ⟨0x11A3F, po, po⟩,
  ⟨0x11A47, mn, mn⟩, ⟨0x11A48, cn, cn⟩, ⟨0x11A50, lo, lo⟩, ⟨0x11A51, mn, mn⟩, ⟨0x11A57, mc, mc⟩,
  ⟨0x11A59, mn, mn⟩, ⟨0x11A5C, lo, lo⟩, ⟨0x11A8A, mn, mn⟩, ⟨0x11A97, mc, mc⟩, ⟨0x11A98, mn, mn⟩,
  ⟨0x11A9A, po, po⟩, ⟨0x11A9D, lo, lo⟩, ⟨0x11A9E, po, po⟩, ⟨0x11AA3, cn, cn⟩, ⟨0x11AB0, lo, lo⟩,
  ⟨0x11AF9, cn, cn⟩, ⟨0x11B00, po, po⟩, ⟨0x11B0A, cn, cn⟩, ⟨0x11BC0, lo, lo⟩, ⟨0x11BE1, po, po⟩,
  ⟨0x11BE2, cn, cn⟩, ⟨0x11BF0, nd, nd⟩, ⟨0x11BFA, cn, cn⟩, ⟨0x11C00, lo, lo⟩, ⟨0x11C09, cn, cn⟩,
  ⟨0x11C0A, lo, lo⟩, ⟨0x11C2F, mc, mc⟩, ⟨0x11C30, mn, mn⟩, ⟨0x11C37, cn, cn⟩, ⟨0x11C38, mn, mn⟩,
  ⟨0x11C3E, mc, mc⟩, ⟨0x11C3F, mn, mn⟩, ⟨0x11C40, lo, lo⟩, ⟨0x11C41, po, po⟩, ⟨0x11C46, cn, cn⟩,
  ⟨0x11C50, nd, nd⟩, ⟨0x11C5A, no, no⟩, ⟨0x11C6D, cn, cn⟩, ⟨0x11C70, po, po⟩, ⟨0x11C72, lo, lo⟩,
  ⟨0x11C90, cn, cn⟩, ⟨0x11C92, mn, mn⟩, ⟨0x11CA8, cn, cn⟩, ⟨0x11CA9, mc, mc⟩, ⟨0x11CAA, mn, mn⟩,
  ⟨0x11CB1, mc, mc⟩, ⟨0x11CB2, mn, mn⟩, ⟨0x11CB4, mc, mc⟩, ⟨0x11CB5, mn, mn⟩, ⟨0x11CB7, cn, cn⟩,
  ⟨0x11D00, lo, lo⟩, ⟨0x11D07, cn, cn⟩, ⟨0x11D08, lo, lo⟩, ⟨0x11D0A, cn, cn⟩, ⟨0x11D0B, lo, lo⟩,
  ⟨0x11D31, mn, mn⟩, ⟨0x11D37, cn, cn⟩, ⟨0x11D3A, mn, mn⟩, ⟨0x11D3B, cn, cn⟩]

def CategoryTable.runs11D3C : List CategoryRun := [
  ⟨0x11D3C, mn, mn⟩, ⟨0x11D3E, cn, cn⟩, ⟨0x11D3F, mn, mn⟩, ⟨0x11D46, lo, lo⟩, ⟨0x11D47, mn, mn⟩,
  ⟨0x11D48, cn, cn⟩, ⟨0x11D50, nd, nd⟩, ⟨0x11D5A, cn, cn⟩, ⟨0x11D60, lo, lo⟩, ⟨0x11D66, cn, cn⟩,
  ⟨0x11D67, lo, lo⟩, ⟨0x11D69, cn, cn⟩, ⟨0x11D6A, lo, lo⟩, ⟨0x11D8A, mc, mc⟩, ⟨0x11D8F, cn, cn⟩,
  ⟨0x11D90, mn, mn⟩, ⟨0x11D92, cn, cn⟩, ⟨0x11D93, mc, mc⟩, ⟨0x11D95, mn, mn⟩, ⟨0x11D96, mc, mc⟩,
  ⟨0x11D97, mn, mn⟩, ⟨0x11D98, lo, lo⟩, ⟨0x11D99, cn, cn⟩, ⟨0x11DA0, nd, nd⟩, ⟨0x11DAA, cn, cn⟩,
  ⟨0x11EE0, lo, lo⟩, ⟨0x11EF3, mn, mn⟩, ⟨0x11EF5, mc, mc⟩, ⟨0x11EF7, po, po⟩, ⟨0x11EF9, cn, cn⟩,
  ⟨0x11F00, mn, mn⟩, ⟨0x11F02, lo, lo⟩, ⟨0x11F03, mc, mc⟩, ⟨0x11F04, lo, lo⟩, ⟨0x11F11, cn, cn⟩,
  ⟨0x11F12, lo, lo⟩, ⟨0x11F34, mc, mc⟩, ⟨0x11F36, mn, mn⟩, ⟨0x11F3B, cn, cn⟩, ⟨0x11F3E, mc, mc⟩,
  ⟨0x11F40, mn, mn⟩, ⟨0x11F41, mc, mc⟩, ⟨0x11F42, mn, mn⟩, ⟨0x11F43, po, po⟩, ⟨0x11F50, nd, nd⟩,
  ⟨0x11F5A, mn, mn⟩, ⟨0x11F5B, cn, cn⟩, ⟨0x11FB0, lo, lo⟩, ⟨0x11FB1, cn, cn⟩, ⟨0x11FC0, no, no⟩,
  ⟨0x11FD5, so, so⟩, ⟨0x11FDD, sc, sc⟩, ⟨0x11FE1, so, so⟩, ⟨0x11FF2, cn, cn⟩, ⟨0x11FFF, po, po⟩,
  ⟨0x12000, lo, lo⟩, ⟨0x1239A, cn, cn⟩, ⟨0x12400, nl, nl⟩, ⟨0x1246F, cn, cn⟩, ⟨0x12470, po, po⟩,
  ⟨0x12475, cn, cn⟩, ⟨0x12480, lo, lo⟩, ⟨0x12544, cn, cn⟩, ⟨0x12F90, lo, lo⟩]

def CategoryTable.runs12FF1 : List CategoryRun := [
  ⟨0x12FF1, po, po⟩, ⟨0x12FF3, cn, cn⟩, ⟨0x13000, lo, lo⟩, ⟨0x13430, cf, cf⟩, ⟨0x13440, mn, mn⟩,
  ⟨0x13441, lo, lo⟩, ⟨0x13447, mn, mn⟩, ⟨0x13456, cn, cn⟩, ⟨0x13460, lo, lo⟩, ⟨0x143FB, cn, cn⟩,
  ⟨0x14400, lo, lo⟩, ⟨0x14647, cn, cn⟩, ⟨0x16100, lo, lo⟩, ⟨0x1611E, mn, mn⟩, ⟨0x1612A, mc, mc⟩,
  ⟨0x1612D, mn, mn⟩, ⟨0x16130, nd, nd⟩, ⟨0x1613A, cn, cn⟩, ⟨0x16800, lo, lo⟩, ⟨0x16A39, cn, cn⟩,
  ⟨0x16A40, lo, lo⟩, ⟨0x16A5F, cn, cn⟩, ⟨0x16A60, nd, nd⟩, ⟨0x16A6A, cn, cn⟩, ⟨0x16A6E, po, po⟩,
  ⟨0x16A70, lo, lo⟩, ⟨0x16ABF, cn, cn⟩, ⟨0x16AC0, nd, nd⟩, ⟨0x16ACA, cn, cn⟩, ⟨0x16AD0, lo, lo⟩,
  ⟨0x16AEE, cn, cn⟩, ⟨0x16AF0, mn, mn⟩, ⟨0x16AF5, po, po⟩, ⟨0x16AF6, cn, cn⟩, ⟨0x16B00, lo, lo⟩,
  ⟨0x16B30, mn, mn⟩, ⟨0x16B37, po, po⟩, ⟨0x16B3C, so, so⟩, ⟨0x16B40, lm, lm⟩, ⟨0x16B44, po, po⟩,
  ⟨0x16B45, so, so⟩, ⟨0x16B46, cn, cn⟩, ⟨0x16B50, nd, nd⟩, ⟨0x16B5A, cn, cn⟩, ⟨0x16B5B, no, no⟩,
  ⟨0x16B62, cn, cn⟩, ⟨0x16B63, lo, lo⟩, ⟨0x16B78, cn, cn⟩, ⟨0x16B7D, lo, lo⟩, ⟨0x16B90, cn, cn⟩,
  ⟨0x16D40, lm, lm⟩, ⟨0x16D43, lo, lo⟩, ⟨0x16D6B, lm, lm⟩, ⟨0x16D6D, po, po⟩, ⟨0x16D70, nd, nd⟩,
  ⟨0x16D7A, cn, cn⟩, ⟨0x16E40, lu, lu⟩, ⟨0x16E60, ll, ll⟩, ⟨0x16E80, no, no⟩, ⟨0x16E97, po, po⟩,
  ⟨0x16E9B, cn, cn⟩, ⟨0x16F00, lo, lo⟩, ⟨0x16F4B, cn, cn⟩, ⟨0x16F4F, mn, mn⟩]

def CategoryTable.runs16F50 : List CategoryRun := [
  ⟨0x16F50, lo, lo⟩, ⟨0x16F51, mc, mc⟩, ⟨0x16F88, cn, cn⟩, ⟨0x16F8F, mn, mn⟩, ⟨0x16F93, lm, lm⟩,
  ⟨0x16FA0, cn, cn⟩, ⟨0x16FE0, lm, lm⟩, ⟨0x16FE2, po, po⟩, ⟨0x16FE3, lm, lm⟩, ⟨0x16FE4, mn, mn⟩,
  ⟨0x16FE5, cn, cn⟩, ⟨0x16FF0, mc, mc⟩, ⟨0x16FF2, cn, cn⟩, ⟨0x17000, lo, lo⟩, ⟨0x187F8, cn, cn⟩,
  ⟨0x18800, lo, lo⟩, ⟨0x18CD6, cn, cn⟩, ⟨0x18CFF, lo, lo⟩, ⟨0x18D09, cn, cn⟩, ⟨0x1AFF0, lm, lm⟩,
  ⟨0x1AFF4, cn, cn⟩, ⟨0x1AFF5, lm, lm⟩, ⟨0x1AFFC, cn, cn⟩, ⟨0x1AFFD, lm, lm⟩, ⟨0x1AFFF, cn, cn⟩,
  ⟨0x1B000, lo, lo⟩, ⟨0x1B123, cn, cn⟩, ⟨0x1B132, lo, lo⟩, ⟨0x1B133, cn, cn⟩, ⟨0x1B150, lo, lo⟩,
  ⟨0x1B153, cn, cn⟩, ⟨0x1B155, lo, lo⟩, ⟨0x1B156, cn, cn⟩, ⟨0x1B164, lo, lo⟩, ⟨0x1B168, cn, cn⟩,
  ⟨0x1B170, lo, lo⟩, ⟨0x1B2FC, cn, cn⟩, ⟨0x1BC00, lo, lo⟩, ⟨0x1BC6B, cn, cn⟩, ⟨0x1BC70, lo, lo⟩,
  ⟨0x1BC7D, cn, cn⟩, ⟨0x1BC80, lo, lo⟩, ⟨0x1BC89, cn, cn⟩, ⟨0x1BC90, lo, lo⟩, ⟨0x1BC9A, cn, cn⟩,
  ⟨0x1BC9C, so, so⟩, ⟨0x1BC9D, mn, mn⟩, ⟨0x1BC9F, po, po⟩, ⟨0x1BCA0, cf, cf⟩, ⟨0x1BCA4, cn, cn⟩,
  ⟨0x1CC00, so, so⟩, ⟨0x1CCF0, nd, nd⟩, ⟨0x1CCFA, cn, cn⟩, ⟨0x1CD00, so, so⟩, ⟨0x1CEB4, cn, cn⟩,
  ⟨0x1CF00, mn, mn⟩, ⟨0x1CF2E, cn, cn⟩, ⟨0x1CF30, mn, mn⟩, ⟨0x1CF47, cn, cn⟩, ⟨0x1CF50, so, so⟩,
  ⟨0x1CFC4, cn, cn⟩, ⟨0x1D000, so, so⟩, ⟨0x1D0F6, cn, cn⟩, ⟨0x1D100, so, so⟩]

def CategoryTable.runs1D127 : List CategoryRun := [
  ⟨0x1D127, cn, cn⟩, ⟨0x1D129, so, so⟩, ⟨0x1D165, mc, mc⟩, ⟨0x1D167, mn, mn⟩, ⟨0x1D16A, so, so⟩,
  ⟨0x1D16D, mc, mc⟩, ⟨0x1D173, cf, cf⟩, ⟨0x1D17B, mn, mn⟩, ⟨0x1D183, so, so⟩, ⟨0x1D185, mn, mn⟩,
  ⟨0x1D18C, so, so⟩, ⟨0x1D1AA, mn, mn⟩, ⟨0x1D1AE, so, so⟩, ⟨0x1D1EB, cn, cn⟩, ⟨0x1D200, so, so⟩,
  ⟨0x1D242, mn, mn⟩, ⟨0x1D245, so, so⟩, ⟨0x1D246, cn, cn⟩, ⟨0x1D2C0, no, no⟩, ⟨0x1D2D4, cn, cn⟩,
  ⟨0x1D2E0, no, no⟩, ⟨0x1D2F4, cn, cn⟩, ⟨0x1D300, so, so⟩, ⟨0x1D357, cn, cn⟩, ⟨0x1D360, no, no⟩,
  ⟨0x1D379, cn, cn⟩, ⟨0x1D400, lu, lu⟩, ⟨0x1D41A, ll, ll⟩, ⟨0x1D434, lu, lu⟩, ⟨0x1D44E, ll, ll⟩,
  ⟨0x1D455, cn, cn⟩, ⟨0x1D456, ll, ll⟩, ⟨0x1D468, lu, lu⟩, ⟨0x1D482, ll, ll⟩, ⟨0x1D49C, lu, lu⟩,
  ⟨0x1D49D, cn, cn⟩, ⟨0x1D49E, lu, lu⟩, ⟨0x1D4A0, cn, cn⟩, ⟨0x1D4A2, lu, lu⟩, ⟨0x1D4A3, cn, cn⟩,
  ⟨0x1D4A5, lu, lu⟩, ⟨0x1D4A7, cn, cn⟩, ⟨0x1D4A9, lu, lu⟩, ⟨0x1D4AD, cn, cn⟩, ⟨0x1D4AE, lu, lu⟩,
  ⟨0x1D4B6, ll, ll⟩, ⟨0x1D4BA, cn, ll⟩, ⟨0x1D4BD, ll, ll⟩, ⟨0x1D4C4, cn, cn⟩, ⟨0x1D4C5, ll, ll⟩,
  ⟨0x1D4D0, lu, lu⟩, ⟨0x1D4EA, ll, ll⟩, ⟨0x1D504, lu, lu⟩, ⟨0x1D506, cn, cn⟩, ⟨0x1D507, lu, lu⟩,
  ⟨0x1D50B, cn, cn⟩, ⟨0x1D50D, lu, lu⟩, ⟨0x1D515, cn, cn⟩, ⟨0x1D516, lu, lu⟩, ⟨0x1D51D, cn, cn⟩,
  ⟨0x1D51E, ll, ll⟩, ⟨0x1D538, lu, lu⟩, ⟨0x1D53A, cn, cn⟩, ⟨0x1D53B, lu, lu⟩]

def CategoryTable.runs1D53F : List CategoryRun := [
  ⟨0x1D53F, cn, cn⟩, ⟨0x1D540, lu, lu⟩, ⟨0x1D545, cn, cn⟩, ⟨0x1D546, lu, lu⟩, ⟨0x1D547, cn, cn⟩,
  ⟨0x1D54A, lu, lu⟩, ⟨0x1D551, cn, cn⟩, ⟨0x1D552, ll, ll⟩, ⟨0x1D56C, lu, lu⟩, ⟨0x1D586, ll, ll⟩,
  ⟨0x1D5A0, lu, lu⟩, ⟨0x1D5BA, ll, ll⟩, ⟨0x1D5D4, lu, lu⟩, ⟨0x1D5EE, ll, ll⟩, ⟨0x1D608, lu, lu⟩,
  ⟨0x1D622, ll, ll⟩, ⟨0x1D63C, lu, lu⟩, ⟨0x1D656, ll, ll⟩, ⟨0x1D670, lu, lu⟩, ⟨0x1D68A, ll, ll⟩,
  ⟨0x1D6A6, cn, cn⟩, ⟨0x1D6A8, lu, lu⟩, ⟨0x1D6C1, sm, sm⟩, ⟨0x1D6C2, ll, ll⟩, ⟨0x1D6DB, sm, sm⟩,
  ⟨0x1D6DC, ll, ll⟩, ⟨0x1D6E2, lu, lu⟩, ⟨0x1D6FB, sm, sm⟩, ⟨0x1D6FC, ll, ll⟩, ⟨0x1D715, sm, sm⟩,
  ⟨0x1D716, ll, ll⟩, ⟨0x1D71C, lu, lu⟩, ⟨0x1D735, sm, sm⟩, ⟨0x1D736, ll, ll⟩, ⟨0x1D74F, sm, sm⟩,
  ⟨0x1D750, ll, ll⟩, ⟨0x1D756, lu, lu⟩, ⟨0x1D76F, sm, sm⟩, ⟨0x1D770, ll, ll⟩, ⟨0x1D789, sm, sm⟩,
  ⟨0x1D78A, ll, ll⟩, ⟨0x1D790, lu, lu⟩, ⟨0x1D7A9, sm, sm⟩, ⟨0x1D7AA, ll, ll⟩, ⟨0x1D7C3, sm, sm⟩,
  ⟨0x1D7C4, ll, ll⟩, ⟨0x1D7CA, lu, lu⟩, ⟨0x1D7CB, ll, ll⟩, ⟨0x1D7CC, cn, cn⟩, ⟨0x1D7CE, nd, nd⟩,
  ⟨0x1D800, so, so⟩, ⟨0x1DA00, mn, mn⟩, ⟨0x1DA37, so, so⟩, ⟨0x1DA3B, mn, mn⟩, ⟨0x1DA6D, so, so⟩,
  ⟨0x1DA75, mn, mn⟩, ⟨0x1DA76, so, so⟩, ⟨0x1DA84, mn, mn⟩, ⟨0x1DA85, so, so⟩, ⟨0x1DA87, po, po⟩,
  ⟨0x1DA8C, cn, cn⟩, ⟨0x1DA9B, mn, mn⟩, ⟨0x1DAA0, cn, cn⟩, ⟨0x1DAA1, mn, mn⟩]

def CategoryTable.runs1DAB0 : List CategoryRun := [
  ⟨0x1DAB0, cn, cn⟩, ⟨0x1DF00, ll, ll⟩, ⟨0x1DF0A, lo, lo⟩, ⟨0x1DF0B, ll, ll⟩, ⟨0x1DF1F, cn, cn⟩,
  ⟨0x1DF25, ll, ll⟩, ⟨0x1DF2B, cn, cn⟩, ⟨0x1E000, mn, mn⟩, ⟨0x1E007, cn, cn⟩, ⟨0x1E008, mn, mn⟩,
  ⟨0x1E019, cn, cn⟩, ⟨0x1E01B, mn, mn⟩, ⟨0x1E022, cn, cn⟩, ⟨0x1E023, mn, mn⟩, ⟨0x1E025, cn, cn⟩,
  ⟨0x1E026, mn, mn⟩, ⟨0x1E02B, cn, cn⟩, ⟨0x1E030, lm, lm⟩, ⟨0x1E06E, cn, cn⟩, ⟨0x1E08F, mn, mn⟩,
  ⟨0x1E090, cn, cn⟩, ⟨0x1E100, lo, lo⟩, ⟨0x1E12D, cn, cn⟩, ⟨0x1E130, mn, mn⟩, ⟨0x1E137, lm, lm⟩,
  ⟨0x1E13E, cn, cn⟩, ⟨0x1E140, nd, nd⟩, ⟨0x1E14A, cn, cn⟩, ⟨0x1E14E, lo, lo⟩, ⟨0x1E14F, so, so⟩,
  ⟨0x1E150, cn, cn⟩, ⟨0x1E290, lo, lo⟩, ⟨0x1E2AE, mn, mn⟩, ⟨0x1E2AF, cn, cn⟩, ⟨0x1E2C0, lo, lo⟩,
  ⟨0x1E2EC, mn, mn⟩, ⟨0x1E2F0, nd, nd⟩, ⟨0x1E2FA, cn, cn⟩, ⟨0x1E2FF, sc, sc⟩, ⟨0x1E300, cn, cn⟩,
  ⟨0x1E4D0, lo, lo⟩, ⟨0x1E4EB, lm, lm⟩, ⟨0x1E4EC, mn, mn⟩, ⟨0x1E4F0, nd, nd⟩, ⟨0x1E4FA, cn, cn⟩,
  ⟨0x1E5D0, lo, lo⟩, ⟨0x1E5EE, mn, mn⟩, ⟨0x1E5F0, lo, lo⟩, ⟨0x1E5F1, nd, nd⟩, ⟨0x1E5FB, cn, cn⟩,
  ⟨0x1E5FF, po, po⟩, ⟨0x1E600, cn, cn⟩, ⟨0x1E7E0, lo, lo⟩, ⟨0x1E7E7, cn, cn⟩, ⟨0x1E7E8, lo, lo⟩,
  ⟨0x1E7EC, cn, cn⟩, ⟨0x1E7ED, lo, lo⟩, ⟨0x1E7EF, cn, cn⟩, ⟨0x1E7F0, lo, lo⟩, ⟨0x1E7FF, cn, cn⟩,
  ⟨0x1E800, lo, lo⟩, ⟨0x1E8C5, cn, cn⟩, ⟨0x1E8C7, no, no⟩, ⟨0x1E8D0, mn, mn⟩]

def CategoryTable.runs1E8D7 : List CategoryRun := [
  ⟨0x1E8D7, cn, cn⟩, ⟨0x1E900, lu, lu⟩, ⟨0x1E922, ll, ll⟩, ⟨0x1E944, mn, mn⟩, ⟨0x1E94B, lm, lm⟩,
  ⟨0x1E94C, cn, cn⟩, ⟨0x1E950, nd, nd⟩, ⟨0x1E95A, cn, cn⟩, ⟨0x1E95E, po, po⟩, ⟨0x1E960, cn, cn⟩,
  ⟨0x1EC71, no, no⟩, ⟨0x1ECAC, so, so⟩, ⟨0x1ECAD, no, no⟩, ⟨0x1ECB0, sc, sc⟩, ⟨0x1ECB1, no, no⟩,
  ⟨0x1ECB5, cn, cn⟩, ⟨0x1ED01, no, no⟩, ⟨0x1ED2E, so, so⟩, ⟨0x1ED2F, no, no⟩, ⟨0x1ED3E, cn, cn⟩,
  ⟨0x1EE00, lo, lo⟩, ⟨0x1EE04, cn, cn⟩, ⟨0x1EE05, lo, lo⟩, ⟨0x1EE20, cn, cn⟩, ⟨0x1EE21, lo, lo⟩,
  ⟨0x1EE23, cn, cn⟩, ⟨0x1EE24, lo, lo⟩, ⟨0x1EE25, cn, cn⟩, ⟨0x1EE27, lo, lo⟩, ⟨0x1EE28, cn, cn⟩,
  ⟨0x1EE29, lo, lo⟩, ⟨0x1EE33, cn, cn⟩, ⟨0x1EE34, lo, lo⟩, ⟨0x1EE38, cn, lo⟩, ⟨0x1EE3C, cn, cn⟩,
  ⟨0x1EE42, lo, lo⟩, ⟨0x1EE43, cn, cn⟩, ⟨0x1EE47, cn, lo⟩, ⟨0x1EE4D, lo, lo⟩, ⟨0x1EE50, cn, cn⟩,
  ⟨0x1EE51, lo, lo⟩, ⟨0x1EE53, cn, cn⟩, ⟨0x1EE54, lo, lo⟩, ⟨0x1EE55, cn, cn⟩, ⟨0x1EE57, cn, lo⟩,
  ⟨0x1EE61, lo, lo⟩, ⟨0x1EE63, cn, cn⟩, ⟨0x1EE64, lo, lo⟩, ⟨0x1EE65, cn, cn⟩, ⟨0x1EE67, lo, lo⟩,
  ⟨0x1EE6B, cn, cn⟩, ⟨0x1EE6C, lo, lo⟩, ⟨0x1EE73, cn, cn⟩, ⟨0x1EE74, lo, lo⟩, ⟨0x1EE78, cn, cn⟩,
  ⟨0x1EE79, lo, lo⟩, ⟨0x1EE7D, lo, cn⟩, ⟨0x1EE80, lo, lo⟩, ⟨0x1EE8A, cn, cn⟩, ⟨0x1EE8B, lo, lo⟩,
  ⟨0x1EE9C, cn, cn⟩, ⟨0x1EEA1, lo, lo⟩, ⟨0x1EEA4, cn, cn⟩, ⟨0x1EEA5, lo, lo⟩]

def CategoryTable.runs1EEAA : List CategoryRun := [
  ⟨0x1EEAA, cn, cn⟩, ⟨0x1EEAB, lo, lo⟩, ⟨0x1EEBC, cn, cn⟩, ⟨0x1EEF0, sm, sm⟩, ⟨0x1EEF2, cn, cn⟩,
  ⟨0x1F000, so, so⟩, ⟨0x1F02C, cn, cn⟩, ⟨0x1F030, so, so⟩, ⟨0x1F094, cn, cn⟩, ⟨0x1F0A0, so, so⟩,
  ⟨0x1F0AF, cn, cn⟩, ⟨0x1F0B1, so, so⟩, ⟨0x1F0C0, cn, cn⟩, ⟨0x1F0C1, so, so⟩, ⟨0x1F0D0, cn, cn⟩,
  ⟨0x1F0D1, so, so⟩, ⟨0x1F0F6, cn, cn⟩, ⟨0x1F100, no, no⟩, ⟨0x1F10D, so, so⟩, ⟨0x1F1AE, cn, cn⟩,
  ⟨0x1F1E6, so, so⟩, ⟨0x1F203, cn, cn⟩, ⟨0x1F210, so, so⟩, ⟨0x1F23C, cn, cn⟩, ⟨0x1F240, so, so⟩,
  ⟨0x1F249, cn, cn⟩, ⟨0x1F250, so, so⟩, ⟨0x1F252, cn, cn⟩, ⟨0x1F260, so, so⟩, ⟨0x1F266, cn, cn⟩,
  ⟨0x1F300, so, so⟩, ⟨0x1F3FB, sk, sk⟩, ⟨0x1F400, so, so⟩, ⟨0x1F6D8, cn, cn⟩, ⟨0x1F6DC, so, so⟩,
  ⟨0x1F6ED, cn, cn⟩, ⟨0x1F6F0, so, so⟩, ⟨0x1F6FD, cn, cn⟩, ⟨0x1F700, so, so⟩, ⟨0x1F777, cn, cn⟩,
  ⟨0x1F77B, so, so⟩, ⟨0x1F7DA, cn, cn⟩, ⟨0x1F7E0, so, so⟩, ⟨0x1F7EC, cn, cn⟩, ⟨0x1F7F0, so, so⟩,
  ⟨0x1F7F1, cn, cn⟩, ⟨0x1F800, so, so⟩, ⟨0x1F80C, cn, cn⟩, ⟨0x1F810, so, so⟩, ⟨0x1F848, cn, cn⟩,
  ⟨0x1F850, so, so⟩, ⟨0x1F85A, cn, cn⟩, ⟨0x1F860, so, so⟩, ⟨0x1F888, cn, cn⟩, ⟨0x1F890, so, so⟩,
  ⟨0x1F8AE, cn, cn⟩, ⟨0x1F8B0, so, so⟩, ⟨0x1F8BC, cn, cn⟩, ⟨0x1F8C0, so, so⟩, ⟨0x1F8C2, cn, cn⟩,
  ⟨0x1F900, so, so⟩, ⟨0x1FA54, cn, cn⟩, ⟨0x1FA60, so, so⟩, ⟨0x1FA6E, cn, cn⟩]

def CategoryTable.runs1FA70 : List CategoryRun := [
  ⟨0x1FA70, so, so⟩, ⟨0x1FA7D, cn, cn⟩, ⟨0x1FA80, so, so⟩, ⟨0x1FA8A, cn, cn⟩, ⟨0x1FA8F, so, so⟩,
  ⟨0x1FAC7, cn, cn⟩, ⟨0x1FACE, so, so⟩, ⟨0x1FADD, cn, cn⟩, ⟨0x1FADF, so, so⟩, ⟨0x1FAEA, cn, cn⟩,
  ⟨0x1FAF0, so, so⟩, ⟨0x1FAF9, cn, cn⟩, ⟨0x1FB00, so, so⟩, ⟨0x1FB93, cn, cn⟩, ⟨0x1FB94, so, so⟩,
  ⟨0x1FBF0, nd, nd⟩, ⟨0x1FBFA, cn, cn⟩, ⟨0x20000, lo, lo⟩, ⟨0x2A6E0, cn, cn⟩, ⟨0x2A700, lo, lo⟩,
  ⟨0x2B73A, cn, cn⟩, ⟨0x2B740, lo, lo⟩, ⟨0x2B81E, cn, cn⟩, ⟨0x2B820, lo, lo⟩, ⟨0x2CEA2, cn, cn⟩,
  ⟨0x2CEB0, lo, lo⟩, ⟨0x2EBE1, cn, cn⟩, ⟨0x2EBF0, lo, lo⟩, ⟨0x2EE5E, cn, cn⟩, ⟨0x2F800, lo, lo⟩,
  ⟨0x2FA1E, cn, cn⟩, ⟨0x30000, lo, lo⟩, ⟨0x3134B, cn, cn⟩, ⟨0x31350, lo, lo⟩, ⟨0x323B0, cn, cn⟩,
  ⟨0xE0001, cf, cf⟩, ⟨0xE0002, cn, cn⟩, ⟨0xE0020, cf, cf⟩, ⟨0xE0080, cn, cn⟩, ⟨0xE0100, mn, mn⟩,
  ⟨0xE01F0, cn, cn⟩, ⟨0xF0000, co, co⟩, ⟨0xFFFFE, cn, cn⟩, ⟨0x100000, co, co⟩, ⟨0x10FFFE, cn, cn⟩]

def CategoryTable.unicode : CategoryTable :=
  .split 0xA7FA
    (.split 0xFC6
      (.split 0x985
        (.split 0x295
          (.split 0x14A
            (.runs runs00000)
            (.runs runs0014A))
          (.split 0x58B
            (.runs runs00295)
            (.split 0x7B2
              (.runs runs0058B)
              (.runs runs007B2))))
        (.split 0xC00
          (.split 0xA4B
            (.runs runs00985)
            (.split 0xB34
              (.runs runs00A4B)
              (.runs runs00B34)))
          (.split 0xCE0
            (.runs runs00C00)
            (.split 0xDF5
              (.runs runs00CE0)
              (.runs runs00DF5)))))
      (.split 0x2039
        (.split 0x1A00
          (.split 0x128E
            (.runs runs00FC6)
            (.split 0x17B7
              (.runs runs0128E)
              (.runs runs017B7)))
          (.split 0x1BEA
            (.runs runs01A00)
            (.split 0x1F40
              (.runs runs01BEA)
              (.runs runs01F40))))
        (.split 0x2D71
          (.split 0x213A
            (.runs runs02039)
            (.split 0x2670
              (.runs runs0213A)
              (.runs runs02670)))
          (.split 0x3005
            (.runs runs02D71)
            (.split 0xA490
              (.runs runs03005)
              (.runs runs0A490))))))
    (.split 0x11447
      (.split 0x10280
        (.split 0xAB2F
          (.split 0xA9E5
            (.runs runs0A7FA)
            (.runs runs0A9E5))
          (.split 0xFDFD
            (.runs runs0AB2F)
            (.split 0xFF60
              (.runs runs0FDFD)
              (.runs runs0FF60))))
        (.split 0x10EAE
          (.split 0x10760
            (.runs runs10280)
            (.split 0x10A40
              (.runs runs10760)
              (.runs runs10A40)))
          (.split 0x11144
            (.runs runs10EAE)
            (.split 0x11313
              (.runs runs11144)
              (.runs runs11313)))))
      (.split 0x1D127
        (.split 0x11D3C
          (.split 0x1171B
            (.runs runs11447)
            (.split 0x11A33
              (.runs runs1171B)
              (.runs runs11A33)))
          (.split 0x12FF1
            (.runs runs11D3C)
            (.split 0x16F50
              (.runs runs12FF1)
              (.runs runs16F50))))
        (.split 0x1E8D7
          (.split 0x1D53F
            (.runs runs1D127)
            (.split 0x1DAB0
              (.runs runs1D53F)
              (.runs runs1DAB0)))
          (.split 0x1EEAA
            (.runs runs1E8D7)
            (.split 0x1FA70
              (.runs runs1EEAA)
              (.runs runs1FA70))))))

end SqlIdentifier.Unicode
