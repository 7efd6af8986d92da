/-! States 129 to 257 of the automaton. -/

namespace GoStub.Syntax.Automaton

def rows2 : List (List Nat) := [
    [0x010ed_06080_0c4a4_0d031_11081_12468_132a8_164af_184b0_192a9_1a082_304b3_323c9_4046a_41320,
     0x4a0ee_513ad_730fa_7a367_96328_9d085_9f3cb_d00fb],
    [0x010ed_06080_0c4a4_0d031_11081_12468_132a8_164af_184b0_192af_1a082_304b3_323c9_4046a_41320,
     0x4a0ee_513ad_730fa_7a469_96328_9d085_9f3cb_d00fb],
    [0x011b1_060d9_0c4a5_0d031_110c8_12468_132a8_164af_184b0_192a9_1a0c9_304fe_323fc_40496_41320,
     0x4a1bf_513c3_731c8_7a4aa_96328_9d0a3_9f3fd_d01cb],
    [0x011b1_060d9_0c4a5_0d031_110c8_12468_132a8_164af_184b0_192a9_1a0c9_304fe_323fc_40496_41320,
     0x4a1c0_513c3_731c8_7a4aa_96328_9d0a3_9f3fd_d01cb],
    [0x010ed_06080_0c4a4_0d031_11081_12468_132a8_164af_184b0_192a9_1a082_304b3_323c9_4046a_41320,
     0x4a0ee_513ad_730fa_7a469_96328_9d085_9f3cb_d00fb],
    [0x0121d_060d5_0c46c_0d031_110cf_12468_132a8_164af_184b0_192a9_1a0ce_304fd_323f9_40492_41320,
     0x4a278_51345_73188_7a4a9_96328_9d0bf_9f350_d018a],
    [0x01200_060d5_0c46c_0d031_110cd_12468_132a8_164af_184b0_192a9_1a0bc_304fd_323f9_40492_41320,
     0x4a24b_51345_73188_7a4a9_96328_9d095_9f350_d018a],
    [0x01150_060e1_0c4a7_0d031_110d1_12468_132a8_164af_184b0_192a9_1a0d0_30500_32406_4049e_41320,
     0x4a151_513c5_73158_7a4ac_96328_9d0af_9f407_d015e],
    [0x010ed_06080_0c4a4_0d031_11081_12468_132a8_164af_184b0_192a9_1a082_304b3_323c9_4046a_41320,
     0x4a0f5_513ad_730fa_7a469_96328_9d085_9f3cb_d00fb],
    [0x010ed_06080_0c4a4_0d031_11081_12468_132a8_164af_184b0_192a9_1a082_304b3_323c9_4046a_41320,
     0x4a0f6_513ad_730fa_7a469_96328_9d085_9f3cb_d00fb],
    [0x011b1_060d9_0c4a5_0d031_110c8_12468_132a8_164af_184b0_192a9_1a0c9_304fe_323fc_40496_41320,
     0x4a1c4_513c3_731c8_7a4aa_96328_9d0a3_9f3fd_d01cb],
    [0x010ed_06080_0c4a4_0d031_11081_12468_132a8_164af_184b0_192a9_1a082_304b3_323c9_4046a_41320,
     0x4a0f7_513ad_730fa_7a469_96328_9d085_9f3cb_d00fb],
    [0x010ed_06080_0c4a4_0d031_11081_12468_132a8_164af_184b0_192a9_1a082_304b3_323c9_4046a_41320,
     0x4a0f8_513ad_730fa_7a469_96328_9d085_9f3cb_d00fb],
    [0x010ed_06080_0c4a4_0d031_11081_12468_132a8_164af_184b0_192a9_1a082_304b3_323c9_4046a_41320,
     0x4a0f9_513ad_730fa_7a469_96328_9d085_9f3cb_d00fb],
    [0x0121d_060d5_0c46c_0d031_110cf_12468_132a8_164af_184b0_192a9_1a0ce_304fd_323f9_40492_41320,
     0x4a24f_51345_73188_7a4a9_96328_9d0bf_9f350_d018a],
    [0x0121d_060d5_0c46c_0d031_110cf_12468_132a8_164af_184b0_192a9_1a0ce_304fd_323f9_40492_41320,
     0x4a27c_51345_73188_7a4a9_96328_9d0bf_9f350_d018a],
    [0x01185_060d5_0c46c_0d031_110c5_12468_132a8_164af_184b0_192a9_1a0c6_304fd_323f9_40492_41320,
     0x4a2bc_51345_73188_7a4a9_96328_9d09d_9f350_d018a],
    [0x01185_060d5_0c46c_0d031_110c5_12468_132a8_164af_184b0_192a9_1a0c6_304fd_323f9_40492_41320,
     0x4a280_51345_73188_7a4a9_96328_9d09d_9f350_d018a],
    [0x01185_060d5_0c46c_0d031_110c5_12468_132a8_164af_184b0_192a9_1a0c6_304fd_323f9_40492_41320,
     0x4a282_51345_73188_7a4a9_96328_9d09d_9f350_d018a],
    [0x01185_060d5_0c46c_0d031_110c5_12468_132a8_164af_184b0_192a9_1a0c6_304fd_323f9_40492_41320,
     0x4a283_51345_73188_7a4a9_96328_9d09d_9f350_d018a],
    [0x01200_060d5_0c46c_0d031_110cd_12468_132a8_164af_184b0_192a9_1a0bc_304fd_323f9_40492_41320,
     0x4a183_51345_73188_7a4a9_96328_9d095_9f350_d018a],
    [0x01185_060d5_0c46c_0d031_110c5_12468_132a8_164af_184b0_192a9_1a0c6_304fd_323f9_40492_41320,
     0x4a1f0_51345_73188_7a4a9_96328_9d09d_9f350_d018a],
    [0x01200_060d5_0c46c_0d031_110cd_12468_132a8_164af_184b0_192a9_1a0bc_304fd_323f9_40492_41320,
     0x4a184_51345_73188_7a4a9_96328_9d095_9f350_d018a],
    [0x01200_060d5_0c46c_0d031_110cd_12468_132a8_164af_184b0_192a9_1a0bc_304fd_323f9_40492_41320,
     0x4a215_51345_73188_7a4a9_96328_9d095_9f350_d018a],
    [0x01185_060d5_0c46c_0d031_110c5_12468_132a8_164af_184b0_192a9_1a0c6_304fd_323f9_40492_41320,
     0x4a255_51345_73188_7a4a9_96328_9d09d_9f350_d018a],
    [0x01200_060d5_0c46c_0d031_110cd_12468_132a8_164af_184b0_192a9_1a0bc_304fd_323f9_40492_41320,
     0x4a216_51345_73188_7a4a9_96328_9d095_9f350_d018a],
    [0x01200_060d5_0c46c_0d031_110cd_12468_132a8_164af_184b0_192a9_1a0bc_304fd_323f9_40492_41320,
     0x4a217_51345_73188_7a4a9_96328_9d095_9f350_d018a],
    [0x01200_060d5_0c46c_0d031_110cd_12468_132a8_164af_184b0_192a9_1a0bc_304fd_323f9_40492_41320,
     0x4a218_51345_73188_7a4a9_96328_9d095_9f350_d018a],
    [0x01185_060d5_0c46c_0d031_110c5_12468_132a8_164af_184b0_192a9_1a0c6_304fd_323f9_40492_41320,
     0x4a183_51345_73188_7a4a9_96328_9d09d_9f350_d018a],
    [0x01185_060d5_0c46c_0d031_110c5_12468_132a8_164af_184b0_192a9_1a0c6_304fd_323f9_40492_41320,
     0x4a184_51345_73188_7a4a9_96328_9d09d_9f350_d018a],
    [0x01185_060d5_0c46c_0d031_110c5_12468_132a8_164af_184b0_192a9_1a0c6_304fd_323f9_40492_41320,
     0x4a1b7_51345_73188_7a4a9_96328_9d09d_9f350_d018a],
    [0x01185_060d5_0c46c_0d031_110c5_12468_132a8_164af_184b0_192a9_1a0c6_304fd_323f9_40492_41320,
     0x4a1b8_51345_73188_7a4a9_96328_9d09d_9f350_d018a],
    [0x01185_060d5_0c46c_0d031_110c5_12468_132a8_164af_184b0_192a9_1a0c6_304fd_323f9_40492_41320,
     0x4a1b9_51345_73188_7a4a9_96328_9d09d_9f350_d018a],
    [0x01185_060d5_0c46c_0d031_110c5_12468_132a8_164af_184b0_192a9_1a0c6_304fd_323f9_40492_41320,
     0x4a1ba_51345_73188_7a4a9_96328_9d09d_9f350_d018a],
    [0x011b1_060d9_0c4a5_0d031_110c8_12468_132a8_164af_184b0_192a9_1a0c9_304fe_323fc_40496_41320,
     0x4a1b5_513c3_731c8_7a4aa_96328_9d0a3_9f3fd_d01cb],
    [0x011b1_060d9_0c4a5_0d031_110c8_12468_132a8_164af_184b0_192a9_1a0c9_304fe_323fc_40496_41320,
     0x4a1b6_513c3_731c8_7a4aa_96328_9d0a3_9f3fd_d01cb],
    [0x011b1_060d9_0c4a5_0d031_110c8_12468_132a8_164af_184b0_192a9_1a0c9_304fe_323fc_40496_41320,
     0x4a1bb_513c3_731c8_7a4aa_96328_9d0a3_9f3fd_d01cb],
    [0x011b1_060d9_0c4a5_0d031_110c8_12468_132a8_164af_184b0_192a9_1a0c9_304fe_323fc_40496_41320,
     0x4a1bc_513c3_731c8_7a4aa_96328_9d0a3_9f3fd_d01cb],
    [0x011b1_060d9_0c4a5_0d031_110c8_12468_132a8_164af_184b0_192a9_1a0c9_304fe_323fc_40496_41320,
     0x4a1bd_513c3_731c8_7a4aa_96328_9d0a3_9f3fd_d01cb],
    [0x011b1_060d9_0c4a5_0d031_110c8_12468_132a8_164af_184b0_192a9_1a0c9_304fe_323fc_40496_41320,
     0x4a1be_513c3_731c8_7a4aa_96328_9d0a3_9f3fd_d01cb],
    [0x01121_060dd_0c4a6_0d031_110cb_12468_132a8_164af_184b0_192a9_1a0cc_304ff_32401_4049a_41320,
     0x4a122_513c4_73128_7a4ab_96328_9d0a9_9f402_d012b],
    [0x01121_060dd_0c4a6_0d031_110cb_12468_132a8_164af_184b0_192a9_1a0cc_304ff_32401_4049a_41320,
     0x4a123_513c4_73128_7a4ab_96328_9d0a9_9f402_d012b],
    [0x01121_060dd_0c4a6_0d031_110cb_12468_132a8_164af_184b0_192a9_1a0cc_304ff_32401_4049a_41320,
     0x4a124_513c4_73128_7a4ab_96328_9d0a9_9f402_d012b],
    [0x01121_060dd_0c4a6_0d031_110cb_12468_132a8_164af_184b0_192a9_1a0cc_304ff_32401_4049a_41320,
     0x4a125_513c4_73128_7a4ab_96328_9d0a9_9f402_d012b],
    [0x01121_060dd_0c4a6_0d031_110cb_12468_132a8_164af_184b0_192a9_1a0cc_304ff_32401_4049a_41320,
     0x4a126_513c4_73128_7a4ab_96328_9d0a9_9f402_d012b],
    [0x01121_060dd_0c4a6_0d031_110cb_12468_132a8_164af_184b0_192a9_1a0cc_304ff_32401_4049a_41320,
     0x4a127_513c4_73128_7a4ab_96328_9d0a9_9f402_d012b],
    [0x01150_060e1_0c4a7_0d031_110d1_12468_132a8_164af_184b0_192a9_1a0d0_30500_32406_4049e_41320,
     0x4a152_513c5_73158_7a4ac_96328_9d0af_9f407_d015e],
    [0x01150_060e1_0c4a7_0d031_110d1_12468_132a8_164af_184b0_192a9_1a0d0_30500_32406_4049e_41320,
     0x4a153_513c5_73158_7a4ac_96328_9d0af_9f407_d015e],
    [0x01150_060e1_0c4a7_0d031_110d1_12468_132a8_164af_184b0_192a9_1a0d0_30500_32406_4049e_41320,
     0x4a154_513c5_73158_7a4ac_96328_9d0af_9f407_d015e],
    [0x01150_060e1_0c4a7_0d031_110d1_12468_132a8_164af_184b0_192a9_1a0d0_30500_32406_4049e_41320,
     0x4a155_513c5_73158_7a4ac_96328_9d0af_9f407_d015e],
    [0x01150_060e1_0c4a7_0d031_110d1_12468_132a8_164af_184b0_192a9_1a0d0_30500_32406_4049e_41320,
     0x4a156_513c5_73158_7a4ac_96328_9d0af_9f407_d015e],
    [0x01150_060e1_0c4a7_0d031_110d1_12468_132a8_164af_184b0_192a9_1a0d0_30500_32406_4049e_41320,
     0x4a157_513c5_73158_7a4ac_96328_9d0af_9f407_d015e],
    [0x011c9_060e5_0c4a8_0d031_110d4_12468_132a8_164af_184b0_192a9_1a0d2_30501_3240b_404a1_41320,
     0x4a1f1_513c6_73201_7a4ad_96328_9d0b5_9f40c_d021c],
    [0x011c9_060e5_0c4a8_0d031_110d4_12468_132a8_164af_184b0_192a9_1a0d2_30501_3240b_404a1_41320,
     0x4a1f4_513c6_73201_7a4ad_96328_9d0b5_9f40c_d021c],
    [0x011c9_060e5_0c4a8_0d031_110d4_12468_132a8_164af_184b0_192a9_1a0d2_30501_3240b_404a1_41320,
     0x4a1f5_513c6_73201_7a4ad_96328_9d0b5_9f40c_d021c],
    [0x011c9_060e5_0c4a8_0d031_110d4_12468_132a8_164af_184b0_192a9_1a0d2_30501_3240b_404a1_41320,
     0x4a1f6_513c6_73201_7a4ad_96328_9d0b5_9f40c_d021c],
    [0x011c9_060e5_0c4a8_0d031_110d4_12468_132a8_164af_184b0_192a9_1a0d2_30501_3240b_404a1_41320,
     0x4a1f7_513c6_73201_7a4ad_96328_9d0b5_9f40c_d021c],
    [0x011c9_060e5_0c4a8_0d031_110d4_12468_132a8_164af_184b0_192a9_1a0d2_30501_3240b_404a1_41320,
     0x4a1f8_513c6_73201_7a4ad_96328_9d0b5_9f40c_d021c],
    [0x01185_060d5_0c46c_0d031_110bb_12468_132a8_164af_184b0_192a9_1a0bc_304fd_323f9_40492_41320,
     0x4a183_51345_73188_7a367_96328_9d095_9f350_d018a],
    [0x01200_060d5_0c46c_0d031_110cd_12468_132a8_164af_184b0_192af_1a0bc_304fd_323f9_40492_41320,
     0x4a183_51345_73188_7a4a9_96328_9d095_9f350_d018a],
    [0x011b1_060d9_0c4a5_0d031_110c8_12468_132a8_164af_184b0_192a9_1a0c9_304fe_323fc_40496_41320,
     0x4a1b4_513c3_731c8_7a4aa_96328_9d0a3_9f3fd_d01cb],
    [0x0121d_060d5_0c46c_0d031_110cf_12468_132a8_164af_184b0_192a9_1a0ce_304fd_323f9_40492_41320,
     0x4a285_51345_73188_7a4a9_96328_9d0bf_9f350_d018a],
    [0x0121d_060d5_0c46c_0d031_110cf_12468_132a8_164af_184b0_192a9_1a0ce_304fd_323f9_40492_41320,
     0x4a183_51345_73188_7a4a9_96328_9d0bf_9f350_d018a],
    [0x0121d_060d5_0c46c_0d031_110cf_12468_132a8_164af_184b0_192a9_1a0ce_304fd_323f9_40492_41320,
     0x4a184_51345_73188_7a4a9_96328_9d0bf_9f350_d018a],
    [0x0121d_060d5_0c46c_0d031_110cf_12468_132a8_164af_184b0_192a9_1a0ce_304fd_323f9_40492_41320,
     0x4a245_51345_73188_7a4a9_96328_9d0bf_9f350_d018a],
    [0x0121d_060d5_0c46c_0d031_110cf_12468_132a8_164af_184b0_192a9_1a0ce_304fd_323f9_40492_41320,
     0x4a246_51345_73188_7a4a9_96328_9d0bf_9f350_d018a],
    [0x0121d_060d5_0c46c_0d031_110cf_12468_132a8_164af_184b0_192a9_1a0ce_304fd_323f9_40492_41320,
     0x4a247_51345_73188_7a4a9_96328_9d0bf_9f350_d018a],
    [0x0121d_060d5_0c46c_0d031_110cf_12468_132a8_164af_184b0_192a9_1a0ce_304fd_323f9_40492_41320,
     0x4a248_51345_73188_7a4a9_96328_9d0bf_9f350_d018a],
    [0x01185_060d5_0c46c_0d031_110c5_12468_132a8_164af_184b0_192a9_1a0c6_304fd_323f9_40492_41320,
     0x4a183_51345_73188_7a367_96328_9d09d_9f350_d018a],
    [0x01185_060d5_0c46c_0d031_110c5_12468_132a8_164af_184b0_192af_1a0c6_304fd_323f9_40492_41320,
     0x4a183_51345_73188_7a4a9_96328_9d09d_9f350_d018a],
    [0x01200_060d5_0c46c_0d031_110cd_12468_132a8_164af_184b0_192a9_1a0bc_304fd_323f9_40492_41320,
     0x4a256_51345_73188_7a4a9_96328_9d095_9f350_d018a],
    [0x011b1_060d9_0c4a5_0d031_110c8_12468_132a8_164af_184b0_192a9_1a0c9_304fe_323fc_40496_41320,
     0x4a1b5_513c3_731c8_7a367_96328_9d0a3_9f3fd_d01cb],
    [0x011b1_060d9_0c4a5_0d031_110c8_12468_132a8_164af_184b0_192af_1a0c9_304fe_323fc_40496_41320,
     0x4a1b5_513c3_731c8_7a4aa_96328_9d0a3_9f3fd_d01cb],
    [0x0121d_060d5_0c46c_0d031_110cf_12468_132a8_164af_184b0_192a9_1a0ce_304fd_323f9_40492_41320,
     0x4a25e_51345_73188_7a4a9_96328_9d0bf_9f350_d018a],
    [0x01121_060dd_0c4a6_0d031_110cb_12468_132a8_164af_184b0_192a9_1a0cc_304ff_32401_4049a_41320,
     0x4a122_513c4_73128_7a367_96328_9d0a9_9f402_d012b],
    [0x01121_060dd_0c4a6_0d031_110cb_12468_132a8_164af_184b0_192af_1a0cc_304ff_32401_4049a_41320,
     0x4a122_513c4_73128_7a4ab_96328_9d0a9_9f402_d012b],
    [0x01200_060d5_0c46c_0d031_110cd_12468_132a8_164af_184b0_192a9_1a0bc_304fd_323f9_40492_41320,
     0x4a183_51345_73188_7a367_96328_9d095_9f350_d018a],
    [0x0121d_060d5_0c46c_0d031_110cf_12468_132a8_164af_184b0_192af_1a0ce_304fd_323f9_40492_41320,
     0x4a183_51345_73188_7a4a9_96328_9d0bf_9f350_d018a],
    [0x0121d_060d5_0c46c_0d031_110cf_12468_132a8_164af_184b0_192a9_1a0ce_304fd_323f9_40492_41320,
     0x4a183_51345_73188_7a367_96328_9d0bf_9f350_d018a],
    [0x01150_060e1_0c4a7_0d031_110d1_12468_132a8_164af_184b0_192af_1a0d0_30500_32406_4049e_41320,
     0x4a152_513c5_73158_7a4ac_96328_9d0af_9f407_d015e],
    [0x01150_060e1_0c4a7_0d031_110d1_12468_132a8_164af_184b0_192a9_1a0d0_30500_32406_4049e_41320,
     0x4a152_513c5_73158_7a367_96328_9d0af_9f407_d015e],
    [0x011c9_060e5_0c4a8_0d031_110d4_12468_132a8_164af_184b0_192af_1a0d2_30501_3240b_404a1_41320,
     0x4a1f1_513c6_73201_7a4ad_96328_9d0b5_9f40c_d021c],
    [0x01202_060d5_0c46c_0d031_110d3_12468_132a8_164af_184b0_192a9_1a0c6_304fd_323f9_40492_41320,
     0x4a183_51345_73188_7a367_96328_9d09d_9f350_d018a],
    [0x011c9_060e5_0c4a8_0d031_110d4_12468_132a8_164af_184b0_192a9_1a0d2_30501_3240b_404a1_41320,
     0x4a1f1_513c6_73201_7a367_96328_9d0b5_9f40c_d021c],
    [0x01185_060d5_0c46c_0d031_110bb_12468_132a8_164af_184b0_192a9_1a0bc_304fd_323f9_40492_41320,
     0x4a286_51345_73188_7a413_96328_9d095_9f350_d018a],
    [0x01200_060d5_0c46c_0d031_110cd_12468_132a8_164af_184b0_192a9_1a0bc_304fd_323f9_40492_41320,
     0x4a258_51345_73188_7a4a9_96328_9d095_9f350_d018a],
    [0x01185_060d5_0c46c_0d031_110c5_12468_132a8_164af_184b0_192a9_1a0c6_304fd_323f9_40492_41320,
     0x4a28b_51345_73188_7a4a9_96328_9d09d_9f350_d018a],
    [0x01185_060d5_0c46c_0d031_110c5_12468_132a8_164af_184b0_192a9_1a0c6_304fd_323f9_40492_41320,
     0x4a28c_51345_73188_7a4a9_96328_9d09d_9f350_d018a],
    [0x01185_060d5_0c46c_0d031_110bb_12468_132a8_164af_184b0_192a9_1a0bc_304fd_323f9_40492_41320,
     0x4a28d_51345_73188_7a413_96328_9d095_9f350_d018a],
    [0x01200_060d5_0c46c_0d031_110cd_12468_132a8_164af_184b0_192a9_1a0bc_304fd_323f9_40492_41320,
     0x4a260_51345_73188_7a4a9_96328_9d095_9f350_d018a],
    [0x01185_060d5_0c46c_0d031_110c5_12468_132a8_164af_184b0_192a9_1a0c6_304fd_323f9_40492_41320,
     0x4a292_51345_73188_7a4a9_96328_9d09d_9f350_d018a],
    [0x01185_060d5_0c46c_0d031_110c5_12468_132a8_164af_184b0_192a9_1a0c6_304fd_323f9_40492_41320,
     0x4a293_51345_73188_7a4a9_96328_9d09d_9f350_d018a],
    [0x01185_060d5_0c46c_0d031_110bb_12468_132a8_164af_184b0_192a9_1a0bc_304fd_323f9_40492_41320,
     0x4a294_51345_73188_7a413_96328_9d095_9f350_d018a],
    [0x01200_060d5_0c46c_0d031_110cd_12468_132a8_164af_184b0_192a9_1a0bc_304fd_323f9_40492_41320,
     0x4a265_51345_73188_7a4a9_96328_9d095_9f350_d018a],
    [0x01185_060d5_0c46c_0d031_110c5_12468_132a8_164af_184b0_192a9_1a0c6_304fd_323f9_40492_41320,
     0x4a299_51345_73188_7a4a9_96328_9d09d_9f350_d018a],
    [0x01185_060d5_0c46c_0d031_110c5_12468_132a8_164af_184b0_192a9_1a0c6_304fd_323f9_40492_41320,
     0x4a29a_51345_73188_7a4a9_96328_9d09d_9f350_d018a],
    [0x01185_060d5_0c46c_0d031_110bb_12468_132a8_164af_184b0_192a9_1a0bc_304fd_323f9_40492_41320,
     0x4a29b_51345_73188_7a413_96328_9d095_9f350_d018a],
    [0x01200_060d5_0c46c_0d031_110cd_12468_132a8_164af_184b0_192a9_1a0bc_304fd_323f9_40492_41320,
     0x4a26a_51345_73188_7a4a9_96328_9d095_9f350_d018a],
    [0x01185_060d5_0c46c_0d031_110c5_12468_132a8_164af_184b0_192a9_1a0c6_304fd_323f9_40492_41320,
     0x4a29f_51345_73188_7a4a9_96328_9d09d_9f350_d018a],
    [0x01185_060d5_0c46c_0d031_110c5_12468_132a8_164af_184b0_192a9_1a0c6_304fd_323f9_40492_41320,
     0x4a2a0_51345_73188_7a4a9_96328_9d09d_9f350_d018a],
    [0x01185_060d5_0c46c_0d031_110bb_12468_132a8_164af_184b0_192a9_1a0bc_304fd_323f9_40492_41320,
     0x4a2a1_51345_73188_7a413_96328_9d095_9f350_d018a],
    [0x01200_060d5_0c46c_0d031_110cd_12468_132a8_164af_184b0_192a9_1a0bc_304fd_323f9_40492_41320,
     0x4a26f_51345_73188_7a4a9_96328_9d095_9f350_d018a],
    [0x01185_060d5_0c46c_0d031_110c5_12468_132a8_164af_184b0_192a9_1a0c6_304fd_323f9_40492_41320,
     0x4a2a5_51345_73188_7a4a9_96328_9d09d_9f350_d018a],
    [0x01185_060d5_0c46c_0d031_110c5_12468_132a8_164af_184b0_192a9_1a0c6_304fd_323f9_40492_41320,
     0x4a2a6_51345_73188_7a4a9_96328_9d09d_9f350_d018a],
    [0x01327_05702_06700_094c0_0c493_0d701_11703_12468_132a8_1401d_164af_18502_192ce_1a4db_3f32c,
     0x44481_4e18d_58211_7a3f6_7b344_af328_c8697],
    [0x05702_06704_0d705_1401c_1e012_3f32c_4e0ff_e9697],
    [0x05702_06704_0d705_1401c_1e00c_3f32c_4e0ff_e9697],
    [0x0546f_06032_09088_0d033_1a08b_1c36f_1d370_2e08d_2f08e_3f470_4d0fe_5d2f0_9408a_a0663_a308c,
     0xa8089_ba636],
    [0x05702_06704_0d705_1401c_3f32c_4e0ff_e9697],
    [0x0546f_06032_0d033_3f470_4d0fe_e96ba],
    [0xee65a],
    [0xed6be],
    [0xec6c0],
    [0xee65b],
    [0xed6bd],
    [0xed6bf],
    [0x0546f_06032_0d033_3f470_4d0fe_e96bb],
    [0x0546f_06032_0d033_3f470_4d0fe_a8089_e36bb],
    [0x0546f_06032_0d033_3f470_4d0fe_9408a_a8089_de6bb],
    [0x0546f_06032_0d033_3f470_4d0fe_9408a_a308c_a8089_d46bb],
    [0x0546f_06032_0d033_2e08d_3f470_4d0fe_9408a_a308c_a8089_d26bb],
    [0x06275_4c0fe_ea697],
    [0xeb697],
    [0x02663_0549c_06042_09088_0d04d_1400b_1a099_1c48d_1d48e_2e0ad_2f0ae_3f49d_4535a_4d12c_5d2f0,
     0x940ab_a30ac_a80aa_ba636],
    [0x02663_0549c_06042_09088_0d04d_1400b_1a099_1c48d_1d48e_2e0ad_2f0ae_3f49d_45377_4d12c_5d2f0,
     0x940ab_a30ac_a80aa_ba636],
    [0xeb699],
    [0xeb6b1],
    [0xeb6b1],
    [0xeb698]]

end GoStub.Syntax.Automaton
