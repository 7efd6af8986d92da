/-! States 0 to 128 of the automaton. -/

namespace GoStub.Syntax.Automaton

def rows1 : List (List Nat) := [
    [],
    [0x00600_010ea_02360_034ae_0431a_06080_08410_0b3c7_0c411_0d031_103c8_11081_12468_132a8_1400b,
     0x164af_184b0_192a9_1a082_1f361_20355_21356_224b1_2301b_24083_25084_2601a_28014_2a015_2d4b2,
     0x304b3_323c9_344b4_3b2f7_4046a_41320_46412_4a0ec_513ad_54002_730fa_7a469_953ca_96328_9d085,
     0x9f3cb_a4363_ca362_d00fb],
    [0x00601_010ea_02360_034ae_0431a_06080_08410_0b3c7_0c411_0d031_103c8_11081_12468_132a8_1400b,
     0x164af_184b0_192a9_1a082_1f361_20355_21356_224b1_2301b_24083_25084_2601a_28014_2a015_2d4b2,
     0x304b3_323c9_3b2f7_4046a_41320_46412_4a0ec_513ad_54003_730fa_7a469_953d4_96328_9d085_9f3cb,
     0xa4363_ca362_d00fb],
    [0x3b2f7_4046a_41320_4a0ec_513ad_54003_7a469_96328_9e412_9f3cb_a4363_bc0fb_ca362_ec6c0],
    [0x010eb_02360_06080_08410_0b3c7_0c4a4_0d031_103c8_11081_12468_132a8_1400b_164af_184b0_192a9,
     0x1a082_1f361_20355_21356_224b1_2301b_24083_25084_2601a_28014_2a015_2d4b2_304b3_323c9_3b2f7,
     0x4046a_41320_46357_4a0ec_513ad_730fa_7a469_7e42a_87689_96328_9d085_9f3cb_a4363_ca362_d00fb],
    [0x010eb_02360_06080_08410_0b3c7_0c4a4_0d031_103c8_11081_12468_132a8_1400b_164af_184b0_192a9,
     0x1a082_1f361_20355_21356_224b1_2301b_24083_25084_2601a_28014_2a015_2d4b2_304b3_323c9_3b2f7,
     0x4046a_41320_46357_4a0ec_513ad_730fa_7a469_7e433_87687_96328_9d085_9f3cb_a4363_ca362_d00fb],
    [0x010eb_02360_06080_08410_0b3c7_0c4a4_0d031_103c8_11081_12468_132a8_1400b_164af_184b0_192a9,
     0x1a082_1f361_20355_21356_224b1_2301b_24083_25084_2601a_28014_2a015_2d4b2_304b3_323c9_3b2f7,
     0x4046a_41320_46357_4a0ec_513ad_730fa_7a469_7e435_87695_96328_9d085_9f3cb_a4363_ca362_d00fb],
    [0x010eb_02360_06080_08410_0b3c7_0c4a4_0d031_103c8_11081_12468_132a8_1400b_164af_184b0_192a9,
     0x1a082_1f361_20355_21356_224b1_2301b_24083_25084_2601a_28014_2a015_2d4b2_304b3_323c9_3b2f7,
     0x4046a_41320_46357_4a0ec_513ad_730fa_7a469_7e436_87690_96328_9d085_9f3cb_a4363_ca362_d00fb],
    [0x010eb_02360_06080_08410_0b3c7_0c4a4_0d031_103c8_11081_12468_132a8_1400b_164af_184b0_192a9,
     0x1a082_1f361_20355_21356_224b1_2301b_24083_25084_2601a_28014_2a015_2d4b2_304b3_323c9_3b2f7,
     0x4046a_41320_46357_4a0ec_513ad_730fa_7a469_7e437_87691_96328_9d085_9f3cb_a4363_ca362_d00fb],
    [0x010eb_02360_06080_08410_0b3c7_0c4a4_0d031_103c8_11081_12468_132a8_1400b_164af_184b0_192a9,
     0x1a082_1f361_20355_21356_224b1_2301b_24083_25084_2601a_28014_2a015_2d4b2_304b3_323c9_3b2f7,
     0x4046a_41320_4638a_48420_4a0ec_513ad_730fa_7a469_8765d_96328_9d085_9f3cb_a4363_ca362_d00fb],
    [0x010eb_02360_06080_08410_0b3c7_0c4a4_0d031_103c8_11081_12468_132a8_1400b_164af_184b0_192a9,
     0x1a082_1f361_20355_21356_224b1_2301b_24083_25084_2601a_28014_2a015_2d4b2_304b3_323c9_3b2f7,
     0x4046a_41320_4638a_48429_4a0ec_513ad_730fa_7a469_8765e_96328_9d085_9f3cb_a4363_ca362_d00fb],
    [0x010eb_02360_06080_08410_0b3c7_0c4a4_0d031_103c8_11081_12468_132a8_1400b_150ef_164af_184b0,
     0x192a9_1a082_1f361_20355_21356_224b1_2301b_24083_25084_2601a_28014_2a015_2d4b2_304b3_323c9,
     0x3b2f7_4046a_41320_46357_4a0ec_513ad_730fa_7a469_7e4b7_96328_9d085_9f3cb_a4363_ca362_d00fb],
    [0x010ea_02360_06080_08410_0b3c7_0c4a4_0d031_103c8_11081_12468_132a8_1400b_164af_184b0_192a9,
     0x1a082_1f361_20355_21356_224b1_2301b_24083_25084_2601a_28014_2a015_2d4b2_304b3_323c9_3b2f7,
     0x4046a_41320_4637e_4a0ec_513ad_730fa_7a469_8766c_96328_9d085_9f3cb_a4363_ca362_d00fb],
    [0x010eb_02360_06080_08410_0b3c7_0c4a4_0d031_103c8_11081_12468_132a8_1400b_1518b_164af_184b0,
     0x192a9_1a082_1f361_20355_21356_224b1_2301b_24083_25084_2601a_28014_2a015_2d4b2_304b3_323c9,
     0x3b2f7_4046a_41320_46357_4a0ec_513ad_730fa_7a469_7e4dc_96328_9d085_9f3cb_a4363_ca362_d00fb],
    [0x010eb_02360_06080_08410_0b3c7_0c4a4_0d031_103c8_11081_12468_132a8_1400b_151f2_164af_184b0,
     0x192a9_1a082_1f361_20355_21356_224b1_2301b_24083_25084_2601a_28014_2a015_2d4b2_304b3_323c9,
     0x3b2f7_4046a_41320_46357_4a0ec_513ad_730fa_7a469_7e4e5_96328_9d085_9f3cb_a4363_ca362_d00fb],
    [0x010eb_02360_06080_08410_0b3c7_0c4a4_0d031_103c8_11081_12468_132a8_1400b_15129_164af_184b0,
     0x192a9_1a082_1f361_20355_21356_224b1_2301b_24083_25084_2601a_28014_2a015_2d4b2_304b3_323c9,
     0x3b2f7_4046a_41320_46357_4a0ec_513ad_730fa_7a469_7e4ec_96328_9d085_9f3cb_a4363_ca362_d00fb],
    [0x010eb_02360_06080_08410_0b3c7_0c4a4_0d031_103c8_11081_12468_132a8_1400b_1515b_164af_184b0,
     0x192a9_1a082_1f361_20355_21356_224b1_2301b_24083_25084_2601a_28014_2a015_2d4b2_304b3_323c9,
     0x3b2f7_4046a_41320_46357_4a0ec_513ad_730fa_7a469_7e4f2_96328_9d085_9f3cb_a4363_ca362_d00fb],
    [0x010eb_02360_06080_08410_0b3c7_0c4a4_0d031_103c8_11081_12468_132a8_1400b_1521a_164af_184b0,
     0x192a9_1a082_1f361_20355_21356_224b1_2301b_24083_25084_2601a_28014_2a015_2d4b2_304b3_323c9,
     0x3b2f7_4046a_41320_46357_4a0ec_513ad_730fa_7a469_7e4f7_96328_9d085_9f3cb_a4363_ca362_d00fb],
    [0x010ea_02360_06080_08410_0b3c7_0c4a4_0d031_103c8_11081_12468_132a8_1400b_164af_184b0_192a9,
     0x1a082_1f361_20355_21356_224b1_2301b_24083_25084_2601a_28014_2a015_2d4b2_304b3_323c9_3b2f7,
     0x4046a_41320_4637e_4a0ec_513ad_730fa_7a469_96328_9d085_9f3cb_a4363_ca362_d00fb],
    [0x010ea_02360_06080_08410_0b3c7_0c4a4_0d031_103c8_11081_12468_132a8_1400b_164af_184b0_192a9,
     0x1a082_1f361_20355_21356_224b1_2301b_24083_25084_2601a_28014_2a015_2d4b2_304b3_323c9_3b2f7,
     0x4046a_41320_4638a_4a0ec_513ad_730fa_7a469_96328_9d085_9f3cb_a4363_ca362_d00fb],
    [0x01121_02051_060dd_0c4a6_0d031_110cb_12468_132a8_1400b_164af_184b0_192a9_1a0cc_29086_304ff,
     0x32401_3b2f8_4049a_41320_4536c_474b9_4a0fd_513c4_73128_7a4ab_8046e_96328_9d0a9_9f402_a448c,
     0xd012b],
    [0x01121_060dd_0c4a6_0d031_110cb_12468_132a8_1436d_164af_184b0_192a9_1a0cc_304ff_32401_3b2f9,
     0x4049a_41320_474ba_494bb_4a11f_513c4_73128_7a4ab_96328_9d0a9_9f402_a448c_d012b],
    [0x01121_060dd_0c4a6_0d031_110cb_12468_132a8_1467c_164af_184b0_192a9_1a0cc_304ff_32401_3b318,
     0x4049a_41320_474c9_4a120_513c4_73128_7a4ab_96328_9d0a9_9f402_a448c_d012b],
    [0x01121_060dd_0c4a6_0d031_110cb_12468_132a8_1467d_164af_184b0_192a9_1a0cc_304ff_32401_3b318,
     0x4049a_41320_474cf_4a120_513c4_73128_7a4ab_96328_9d0a9_9f402_a448c_d012b],
    [0x01121_060dd_0c4a6_0d031_110cb_12468_132a8_1467d_164af_184b0_192a9_1a0cc_304ff_32401_3b318,
     0x4049a_41320_474d0_4a120_513c4_73128_7a4ab_96328_9d0a9_9f402_a448c_d012b],
    [0x01121_060dd_0c4a6_0d031_110cb_12468_132a8_1467e_164af_184b0_192a9_1a0cc_304ff_32401_3b318,
     0x4049a_41320_474d2_4a120_513c4_73128_7a4ab_96328_9d0a9_9f402_a448c_d012b],
    [0x01121_060dd_0c4a6_0d031_110cb_12468_132a8_164af_184b0_192a9_1a0cc_304ff_32401_3b317_4049a,
     0x41320_474b8_4a0fc_513c4_73128_7a4ab_96328_9d0a9_9f402_a448c_d012b],
    [0x011b1_060d9_0c4a5_0d031_110c8_12468_132a8_164af_184b0_192a9_1a0c9_304fe_323fc_3b36b_40496,
     0x41320_4a189_513c3_731c8_7a4aa_96328_9d0a3_9f3fd_a0673_d01cb],
    [0x01185_060d5_094c5_0c46c_0d031_110c5_12468_132a8_1401d_15104_164af_184b0_192a9_1a0c6_304fd,
     0x323f9_40492_41320_4a20d_4e41a_4f3d9_5041b_51345_73188_7a4a9_96328_9d09d_9f350_d018a],
    [0x01185_060d5_094e1_0c46c_0d031_110c5_12468_132a8_1401d_15194_164af_184b0_192a9_1a0c6_304fd,
     0x323f9_40492_41320_4a20d_4e41a_4f3fb_5043d_51345_73188_7a4a9_96328_9d09d_9f350_d018a],
    [0x01185_060d5_094e8_0c46c_0d031_110c5_12468_132a8_1401d_151d3_164af_184b0_192a9_1a0c6_304fd,
     0x323f9_40492_41320_4a20d_4e41a_4f400_50448_51345_73188_7a4a9_96328_9d09d_9f350_d018a],
    [0x01185_060d5_094ef_0c46c_0d031_110c5_12468_132a8_1401d_15133_164af_184b0_192a9_1a0c6_304fd,
     0x323f9_40492_41320_4a20d_4e41a_4f405_50450_51345_73188_7a4a9_96328_9d09d_9f350_d018a],
    [0x01185_060d5_094f4_0c46c_0d031_110c5_12468_132a8_1401d_15166_164af_184b0_192a9_1a0c6_304fd,
     0x323f9_40492_41320_4a20d_4e41a_4f40a_50458_51345_73188_7a4a9_96328_9d09d_9f350_d018a],
    [0x01185_060d5_094f9_0c46c_0d031_110c5_12468_132a8_1401d_15225_164af_184b0_192a9_1a0c6_304fd,
     0x323f9_40492_41320_4a20d_4e41a_4f40f_50460_51345_73188_7a4a9_96328_9d09d_9f350_d018a],
    [0x01185_060d5_0c46c_0d031_110c5_12468_132a8_1401d_15111_164af_184b0_192a9_1a0c6_304fd_323f9,
     0x40492_41320_4a20d_4e41a_4f42d_50485_51345_73188_7a4a9_96328_9d09d_9f350_d018a],
    [0x01185_060d5_0c46c_0d031_110c5_12468_132a8_1401d_15119_164af_184b0_192a9_1a0c6_304fd_323f9,
     0x40492_41320_4a20d_4e41a_4f42d_50485_51345_73188_7a4a9_96328_9d09d_9f350_d018a],
    [0x01185_060d5_0c46c_0d031_110c5_12468_132a8_1401d_151a3_164af_184b0_192a9_1a0c6_304fd_323f9,
     0x40492_41320_4a20d_4e41a_4f42d_50485_51345_73188_7a4a9_96328_9d09d_9f350_d018a],
    [0x01185_060d5_0c46c_0d031_110c5_12468_132a8_1401d_151ab_164af_184b0_192a9_1a0c6_304fd_323f9,
     0x40492_41320_4a20d_4e41a_4f42d_50485_51345_73188_7a4a9_96328_9d09d_9f350_d018a],
    [0x01185_060d5_0c46c_0d031_110c5_12468_132a8_1401d_151e2_164af_184b0_192a9_1a0c6_304fd_323f9,
     0x40492_41320_4a20d_4e41a_4f42d_50485_51345_73188_7a4a9_96328_9d09d_9f350_d018a],
    [0x01185_060d5_0c46c_0d031_110c5_12468_132a8_1401d_151ea_164af_184b0_192a9_1a0c6_304fd_323f9,
     0x40492_41320_4a20d_4e41a_4f42d_50485_51345_73188_7a4a9_96328_9d09d_9f350_d018a],
    [0x01185_060d5_0c46c_0d031_110c5_12468_132a8_1401d_15142_164af_184b0_192a9_1a0c6_304fd_323f9,
     0x40492_41320_4a20d_4e41a_4f42d_50485_51345_73188_7a4a9_96328_9d09d_9f350_d018a],
    [0x01185_060d5_0c46c_0d031_110c5_12468_132a8_1401d_1514a_164af_184b0_192a9_1a0c6_304fd_323f9,
     0x40492_41320_4a20d_4e41a_4f42d_50485_51345_73188_7a4a9_96328_9d09d_9f350_d018a],
    [0x01185_060d5_0c46c_0d031_110c5_12468_132a8_1401d_15175_164af_184b0_192a9_1a0c6_304fd_323f9,
     0x40492_41320_4a20d_4e41a_4f42d_50485_51345_73188_7a4a9_96328_9d09d_9f350_d018a],
    [0x01185_060d5_0c46c_0d031_110c5_12468_132a8_1401d_1517d_164af_184b0_192a9_1a0c6_304fd_323f9,
     0x40492_41320_4a20d_4e41a_4f42d_50485_51345_73188_7a4a9_96328_9d09d_9f350_d018a],
    [0x01185_060d5_0c46c_0d031_110c5_12468_132a8_1401d_15234_164af_184b0_192a9_1a0c6_304fd_323f9,
     0x40492_41320_4a20d_4e41a_4f42d_50485_51345_73188_7a4a9_96328_9d09d_9f350_d018a],
    [0x01185_060d5_0c46c_0d031_110c5_12468_132a8_1401d_1523c_164af_184b0_192a9_1a0c6_304fd_323f9,
     0x40492_41320_4a20d_4e41a_4f42d_50485_51345_73188_7a4a9_96328_9d09d_9f350_d018a],
    [0x01185_060d5_0c46c_0d031_110c5_12468_132a8_1401d_164af_184b0_192a9_1a0c6_304fd_323f9_40492,
     0x41320_4a20d_4e41a_4f42d_50485_51345_73188_7a4a9_96328_9d09d_9f350_d018a],
    [0x011c9_060e5_0c4a8_0d031_110d4_12468_132a8_164af_184b0_192a9_1a0d2_30501_3240b_3b47b_404a1,
     0x41320_4a1c7_513c6_73201_7a4ad_7f4cc_96328_9d0b5_9f40c_d021c],
    [0x01185_060d5_0c46c_0d031_110c5_12468_132a8_1401d_164af_184b0_192a9_1a0c6_304fd_323f9_40492,
     0x41320_4a20d_4e41a_4f486_51345_73188_7a4a9_96328_9d09d_9f350_d018a],
    [0x01185_060d5_0c46c_0d031_0e2aa_0f4b5_110c5_12468_132a8_164af_184b0_192a9_1a0c6_304fd_323f9,
     0x40492_41320_4a274_51345_73188_7a4a9_96328_9d09d_9f350_d018a],
    [0x01200_060d5_07106_0c46c_0d031_110cd_12468_132a8_164af_184b0_192a9_1a0bc_304fd_323f9_40492,
     0x41320_4a1fa_4b41d_51345_73188_7a4a9_96328_9d095_9f350_d018a],
    [0x01202_060d5_0c46c_0d031_110d3_12468_132a8_164af_184b0_192a9_1a0c6_1e059_304fd_323f9_40492,
     0x41320_44419_4a24c_51345_73188_7a381_96328_9d09d_9f350_d018a],
    [0x010e9_060d5_0c46c_0d031_0e2d4_110c5_12468_132a8_164af_184b0_192a9_1a0c6_304fd_323f9_3941f,
     0x40492_41320_4a28e_51345_73188_7a4a9_96328_9d09d_9f350_d018a],
    [0x01185_060d5_0c46c_0d031_110c5_12468_132a8_164af_184b0_192a9_1a0c6_29090_304fd_323f9_3b48f,
     0x40492_41320_4a1ff_51345_73188_7a4a9_96328_9d09d_9f350_d018a],
    [0x01185_060d5_0c46c_0d031_110c5_12468_132a8_164af_184b0_192a9_1a0c6_29090_304fd_323f9_3b490,
     0x40492_41320_4a1ff_51345_73188_7a4a9_96328_9d09d_9f350_d018a],
    [0x0121d_060d5_0c46c_0d031_110cf_12468_132a8_1438e_164af_184b0_192a9_1a0ce_304fd_323f9_3b4cb,
     0x40492_41320_4a1fd_51345_73188_7a4a9_96328_9d0bf_9f350_d018a],
    [0x01202_060d5_0c46c_0d031_0e2cf_110d3_12468_132a8_164af_184b0_192a9_1a0c6_304fd_323f9_40492,
     0x41320_44419_4a287_51345_73188_7a381_96328_9d09d_9f350_d018a],
    [0x01200_060d5_07115_0c46c_0d031_110cd_12468_132a8_164af_184b0_192a9_1a0bc_304fd_323f9_40492,
     0x41320_4a213_4b487_51345_73188_7a4a9_96328_9d095_9f350_d018a],
    [0x01200_060d5_0711b_0c46c_0d031_110cd_12468_132a8_164af_184b0_192a9_1a0bc_304fd_323f9_40492,
     0x41320_4a213_4b487_51345_73188_7a4a9_96328_9d095_9f350_d018a],
    [0x01200_060d5_07198_0c46c_0d031_110cd_12468_132a8_164af_184b0_192a9_1a0bc_304fd_323f9_40492,
     0x41320_4a203_4b43f_51345_73188_7a4a9_96328_9d095_9f350_d018a],
    [0x01202_060d5_0c46c_0d031_0e2d4_110d3_12468_132a8_164af_184b0_192a9_1a0c6_304fd_323f9_40492,
     0x41320_4443c_4a28e_51345_73188_7a381_96328_9d09d_9f350_d018a],
    [0x01200_060d5_071a7_0c46c_0d031_110cd_12468_132a8_164af_184b0_192a9_1a0bc_304fd_323f9_40492,
     0x41320_4a213_4b487_51345_73188_7a4a9_96328_9d095_9f350_d018a],
    [0x01200_060d5_071ad_0c46c_0d031_110cd_12468_132a8_164af_184b0_192a9_1a0bc_304fd_323f9_40492,
     0x41320_4a213_4b487_51345_73188_7a4a9_96328_9d095_9f350_d018a],
    [0x01200_060d5_071d7_0c46c_0d031_110cd_12468_132a8_164af_184b0_192a9_1a0bc_304fd_323f9_40492,
     0x41320_4a206_4b44a_51345_73188_7a4a9_96328_9d095_9f350_d018a],
    [0x01200_060d5_071e6_0c46c_0d031_110cd_12468_132a8_164af_184b0_192a9_1a0bc_304fd_323f9_40492,
     0x41320_4a213_4b487_51345_73188_7a4a9_96328_9d095_9f350_d018a],
    [0x01200_060d5_071ec_0c46c_0d031_110cd_12468_132a8_164af_184b0_192a9_1a0bc_304fd_323f9_40492,
     0x41320_4a213_4b487_51345_73188_7a4a9_96328_9d095_9f350_d018a],
    [0x01200_060d5_07137_0c46c_0d031_110cd_12468_132a8_164af_184b0_192a9_1a0bc_304fd_323f9_40492,
     0x41320_4a207_4b452_51345_73188_7a4a9_96328_9d095_9f350_d018a],
    [0x01200_060d5_07146_0c46c_0d031_110cd_12468_132a8_164af_184b0_192a9_1a0bc_304fd_323f9_40492,
     0x41320_4a213_4b487_51345_73188_7a4a9_96328_9d095_9f350_d018a],
    [0x01200_060d5_0714c_0c46c_0d031_110cd_12468_132a8_164af_184b0_192a9_1a0bc_304fd_323f9_40492,
     0x41320_4a213_4b487_51345_73188_7a4a9_96328_9d095_9f350_d018a],
    [0x01200_060d5_0716a_0c46c_0d031_110cd_12468_132a8_164af_184b0_192a9_1a0bc_304fd_323f9_40492,
     0x41320_4a208_4b45a_51345_73188_7a4a9_96328_9d095_9f350_d018a],
    [0x01200_060d5_07179_0c46c_0d031_110cd_12468_132a8_164af_184b0_192a9_1a0bc_304fd_323f9_40492,
     0x41320_4a213_4b487_51345_73188_7a4a9_96328_9d095_9f350_d018a],
    [0x01200_060d5_0717f_0c46c_0d031_110cd_12468_132a8_164af_184b0_192a9_1a0bc_304fd_323f9_40492,
     0x41320_4a213_4b487_51345_73188_7a4a9_96328_9d095_9f350_d018a],
    [0x01200_060d5_07229_0c46c_0d031_110cd_12468_132a8_164af_184b0_192a9_1a0bc_304fd_323f9_40492,
     0x41320_4a209_4b462_51345_73188_7a4a9_96328_9d095_9f350_d018a],
    [0x01200_060d5_07238_0c46c_0d031_110cd_12468_132a8_164af_184b0_192a9_1a0bc_304fd_323f9_40492,
     0x41320_4a213_4b487_51345_73188_7a4a9_96328_9d095_9f350_d018a],
    [0x01200_060d5_0723e_0c46c_0d031_110cd_12468_132a8_164af_184b0_192a9_1a0bc_304fd_323f9_40492,
     0x41320_4a213_4b487_51345_73188_7a4a9_96328_9d095_9f350_d018a],
    [0x01202_060d5_0c46c_0d031_110d3_12468_132a8_164af_184b0_192a9_1a0c6_1e06a_304fd_323f9_40492,
     0x41320_44419_4a259_51345_73188_7a381_96328_9d09d_9f350_d018a],
    [0x01202_060d5_0c46c_0d031_110d3_12468_132a8_164af_184b0_192a9_1a0c6_1e06f_304fd_323f9_40492,
     0x41320_44419_4a261_51345_73188_7a381_96328_9d09d_9f350_d018a],
    [0x01202_060d5_0c46c_0d031_110d3_12468_132a8_164af_184b0_192a9_1a0c6_1e074_304fd_323f9_40492,
     0x41320_44419_4a266_51345_73188_7a381_96328_9d09d_9f350_d018a],
    [0x01202_060d5_0c46c_0d031_110d3_12468_132a8_164af_184b0_192a9_1a0c6_1e078_304fd_323f9_40492,
     0x41320_44419_4a26b_51345_73188_7a381_96328_9d09d_9f350_d018a],
    [0x01202_060d5_0c46c_0d031_110d3_12468_132a8_164af_184b0_192a9_1a0c6_1e07c_304fd_323f9_40492,
     0x41320_44419_4a270_51345_73188_7a381_96328_9d09d_9f350_d018a],
    [0x01185_060d5_0c46c_0d031_0e2aa_110c5_12468_132a8_164af_184b0_192a9_1a0c6_304fd_323f9_40492,
     0x41320_4a274_51345_73188_7a4a9_96328_9d09d_9f350_d018a],
    [0x01185_02016_060d5_0c46c_0d031_110c5_12468_132a8_164af_184b0_192a9_1a0c6_304fd_323f9_40492,
     0x41320_4a277_51345_73188_7a4a9_96328_9d09d_9f350_d018a],
    [0x011b1_060d9_0c4a5_0d031_110c8_12468_132a8_164af_184b0_192a9_1a0c9_304fe_323fc_3b37f_40496,
     0x41320_4a189_513c3_731c8_7a4aa_96328_9d0a3_9f3fd_d01cb],
    [0x011b1_060d9_0c4a5_0d031_110c8_12468_132a8_164af_184b0_192a9_1a0c9_304fe_323fc_3b380_40496,
     0x41320_4a189_513c3_731c8_7a4aa_96328_9d0a3_9f3fd_d01cb],
    [0x011b1_060d9_0c4a5_0d031_110c8_12468_132a8_164af_184b0_192a9_1a0c9_304fe_323fc_3b383_40496,
     0x41320_4a189_513c3_731c8_7a4aa_96328_9d0a3_9f3fd_d01cb],
    [0x011b1_060d9_0c4a5_0d031_110c8_12468_132a8_164af_184b0_192a9_1a0c9_304fe_323fc_3b385_40496,
     0x41320_4a189_513c3_731c8_7a4aa_96328_9d0a3_9f3fd_d01cb],
    [0x01185_02018_060d5_0c46c_0d031_110c5_12468_132a8_164af_184b0_192a9_1a0c6_304fd_323f9_40492,
     0x41320_4a279_51345_73188_7a4a9_96328_9d09d_9f350_d018a],
    [0x01185_060d5_0c46c_0d031_110c5_12468_132a8_164af_184b0_192a9_1a0c6_304fd_323f9_3b4ca_40492,
     0x41320_4a1ff_51345_73188_7a4a9_96328_9d09d_9f350_d018a],
    [0x01185_060d5_0c46c_0d031_110c5_12468_132a8_164af_184b0_192a9_1a0c6_304fd_323f9_3b490_40492,
     0x41320_4a210_51345_73188_7a4a9_96328_9d09d_9f350_d018a],
    [0x01185_060d5_0c46c_0d031_0e10e_110c5_12468_132a8_164af_184b0_192a9_1a0c6_304fd_323f9_40492,
     0x41320_4a251_51345_73188_7a4a9_96328_9d09d_9f350_d018a],
    [0x011b1_060d9_0c4a5_0d031_110c8_12468_132a8_164af_184b0_192a9_1a0c9_304fe_323fc_3b395_40496,
     0x41320_4a189_513c3_731c8_7a4aa_96328_9d0a3_9f3fd_d01cb],
    [0x011b1_060d9_0c4a5_0d031_110c8_12468_132a8_164af_184b0_192a9_1a0c9_304fe_323fc_3b396_40496,
     0x41320_4a189_513c3_731c8_7a4aa_96328_9d0a3_9f3fd_d01cb],
    [0x011b1_060d9_0c4a5_0d031_110c8_12468_132a8_164af_184b0_192a9_1a0c9_304fe_323fc_3b397_40496,
     0x41320_4a189_513c3_731c8_7a4aa_96328_9d0a3_9f3fd_d01cb],
    [0x011b1_060d9_0c4a5_0d031_110c8_12468_132a8_164af_184b0_192a9_1a0c9_304fe_323fc_3b398_40496,
     0x41320_4a189_513c3_731c8_7a4aa_96328_9d0a3_9f3fd_d01cb],
    [0x01200_060d5_07110_0c46c_0d031_110cd_12468_132a8_164af_184b0_192a9_1a0bc_304fd_323f9_40492,
     0x41320_4a256_51345_73188_7a4a9_96328_9d095_9f350_d018a],
    [0x01185_060d5_0c46c_0d031_0e117_110c5_12468_132a8_164af_184b0_192a9_1a0c6_304fd_323f9_40492,
     0x41320_4a253_51345_73188_7a4a9_96328_9d09d_9f350_d018a],
    [0x011b1_060d9_0c4a5_0d031_110c8_12468_132a8_164af_184b0_192a9_1a0c9_304fe_323fc_3b3a3_40496,
     0x41320_4a189_513c3_731c8_7a4aa_96328_9d0a3_9f3fd_d01cb],
    [0x011b1_060d9_0c4a5_0d031_110c8_12468_132a8_164af_184b0_192a9_1a0c9_304fe_323fc_3b3a4_40496,
     0x41320_4a189_513c3_731c8_7a4aa_96328_9d0a3_9f3fd_d01cb],
    [0x011b1_060d9_0c4a5_0d031_110c8_12468_132a8_164af_184b0_192a9_1a0c9_304fe_323fc_3b3a5_40496,
     0x41320_4a189_513c3_731c8_7a4aa_96328_9d0a3_9f3fd_d01cb],
    [0x01200_060d5_07118_0c46c_0d031_110cd_12468_132a8_164af_184b0_192a9_1a0bc_304fd_323f9_40492,
     0x41320_4a256_51345_73188_7a4a9_96328_9d095_9f350_d018a],
    [0x01200_060d5_0c46c_0d031_110cd_12468_132a8_164af_184b0_192a9_1a0bc_304fd_323f9_40492_41320,
     0x4a213_4b487_51345_73188_7a4a9_96328_9d095_9f350_d018a],
    [0x01185_060d5_0c46c_0d031_110c5_12468_132a8_164af_184b0_192a9_1a0c6_304fd_323f9_3b48f_40492,
     0x41320_4a1ff_51345_73188_7a4a9_96328_9d09d_9f350_d018a],
    [0x01185_060d5_0c46c_0d031_110c5_12468_132a8_164af_184b0_192a9_1a0c6_304fd_323f9_3b490_40492,
     0x41320_4a1ff_51345_73188_7a4a9_96328_9d09d_9f350_d018a],
    [0x01185_060d5_0c46c_0d031_0e2cf_110c5_12468_132a8_164af_184b0_192a9_1a0c6_304fd_323f9_40492,
     0x41320_4a287_51345_73188_7a4a9_96328_9d09d_9f350_d018a],
    [0x0121d_060d5_0c46c_0d031_110cf_12468_132a8_164af_184b0_192a9_1a0ce_304fd_323f9_3b48f_40492,
     0x41320_4a219_51345_73188_7a4a9_96328_9d0bf_9f350_d018a],
    [0x0121d_060d5_0c46c_0d031_110cf_12468_132a8_164af_184b0_192a9_1a0ce_304fd_323f9_3b490_40492,
     0x41320_4a219_51345_73188_7a4a9_96328_9d0bf_9f350_d018a],
    [0x01185_060d5_0c46c_0d031_0e1a0_110c5_12468_132a8_164af_184b0_192a9_1a0c6_304fd_323f9_40492,
     0x41320_4a25b_51345_73188_7a4a9_96328_9d09d_9f350_d018a],
    [0x01200_060d5_071a2_0c46c_0d031_110cd_12468_132a8_164af_184b0_192a9_1a0bc_304fd_323f9_40492,
     0x41320_4a256_51345_73188_7a4a9_96328_9d095_9f350_d018a],
    [0x01185_060d5_0c46c_0d031_0e1a9_110c5_12468_132a8_164af_184b0_192a9_1a0c6_304fd_323f9_40492,
     0x41320_4a25d_51345_73188_7a4a9_96328_9d09d_9f350_d018a],
    [0x01200_060d5_071aa_0c46c_0d031_110cd_12468_132a8_164af_184b0_192a9_1a0bc_304fd_323f9_40492,
     0x41320_4a256_51345_73188_7a4a9_96328_9d095_9f350_d018a],
    [0x01185_060d5_0c46c_0d031_0e2d4_110c5_12468_132a8_164af_184b0_192a9_1a0c6_304fd_323f9_40492,
     0x41320_4a28e_51345_73188_7a4a9_96328_9d09d_9f350_d018a],
    [0x01185_060d5_0c46c_0d031_0e1df_110c5_12468_132a8_164af_184b0_192a9_1a0c6_304fd_323f9_40492,
     0x41320_4a262_51345_73188_7a4a9_96328_9d09d_9f350_d018a],
    [0x01200_060d5_071e1_0c46c_0d031_110cd_12468_132a8_164af_184b0_192a9_1a0bc_304fd_323f9_40492,
     0x41320_4a256_51345_73188_7a4a9_96328_9d095_9f350_d018a],
    [0x01185_060d5_0c46c_0d031_0e1e8_110c5_12468_132a8_164af_184b0_192a9_1a0c6_304fd_323f9_40492,
     0x41320_4a263_51345_73188_7a4a9_96328_9d09d_9f350_d018a],
    [0x01200_060d5_071e9_0c46c_0d031_110cd_12468_132a8_164af_184b0_192a9_1a0bc_304fd_323f9_40492,
     0x41320_4a256_51345_73188_7a4a9_96328_9d095_9f350_d018a],
    [0x01185_060d5_0c46c_0d031_0e2d7_110c5_12468_132a8_164af_184b0_192a9_1a0c6_304fd_323f9_40492,
     0x41320_4a295_51345_73188_7a4a9_96328_9d09d_9f350_d018a],
    [0x01185_060d5_0c46c_0d031_0e13f_110c5_12468_132a8_164af_184b0_192a9_1a0c6_304fd_323f9_40492,
     0x41320_4a267_51345_73188_7a4a9_96328_9d09d_9f350_d018a],
    [0x01200_060d5_07141_0c46c_0d031_110cd_12468_132a8_164af_184b0_192a9_1a0bc_304fd_323f9_40492,
     0x41320_4a256_51345_73188_7a4a9_96328_9d095_9f350_d018a],
    [0x01185_060d5_0c46c_0d031_0e148_110c5_12468_132a8_164af_184b0_192a9_1a0c6_304fd_323f9_40492,
     0x41320_4a268_51345_73188_7a4a9_96328_9d09d_9f350_d018a],
    [0x01200_060d5_07149_0c46c_0d031_110cd_12468_132a8_164af_184b0_192a9_1a0bc_304fd_323f9_40492,
     0x41320_4a256_51345_73188_7a4a9_96328_9d095_9f350_d018a],
    [0x01185_060d5_0c46c_0d031_0e172_110c5_12468_132a8_164af_184b0_192a9_1a0c6_304fd_323f9_40492,
     0x41320_4a26c_51345_73188_7a4a9_96328_9d09d_9f350_d018a],
    [0x01200_060d5_07174_0c46c_0d031_110cd_12468_132a8_164af_184b0_192a9_1a0bc_304fd_323f9_40492,
     0x41320_4a256_51345_73188_7a4a9_96328_9d095_9f350_d018a],
    [0x01185_060d5_0c46c_0d031_0e17b_110c5_12468_132a8_164af_184b0_192a9_1a0c6_304fd_323f9_40492,
     0x41320_4a26d_51345_73188_7a4a9_96328_9d09d_9f350_d018a],
    [0x01200_060d5_0717c_0c46c_0d031_110cd_12468_132a8_164af_184b0_192a9_1a0bc_304fd_323f9_40492,
     0x41320_4a256_51345_73188_7a4a9_96328_9d095_9f350_d018a],
    [0x01185_060d5_0c46c_0d031_0e231_110c5_12468_132a8_164af_184b0_192a9_1a0c6_304fd_323f9_40492,
     0x41320_4a271_51345_73188_7a4a9_96328_9d09d_9f350_d018a],
    [0x01200_060d5_07233_0c46c_0d031_110cd_12468_132a8_164af_184b0_192a9_1a0bc_304fd_323f9_40492,
     0x41320_4a256_51345_73188_7a4a9_96328_9d095_9f350_d018a],
    [0x01185_060d5_0c46c_0d031_0e23a_110c5_12468_132a8_164af_184b0_192a9_1a0c6_304fd_323f9_40492,
     0x41320_4a272_51345_73188_7a4a9_96328_9d09d_9f350_d018a],
    [0x01200_060d5_0723b_0c46c_0d031_110cd_12468_132a8_164af_184b0_192a9_1a0bc_304fd_323f9_40492,
     0x41320_4a256_51345_73188_7a4a9_96328_9d095_9f350_d018a],
    [0x01185_060d5_0c46c_0d031_110bb_12468_132a8_164af_184b0_192a9_1a0bc_304fd_323f9_40492_41320,
     0x4a273_51345_73188_7a413_96328_9d095_9f350_d018a]]

end GoStub.Syntax.Automaton
