/-! States 387 to 515 of the automaton. -/

namespace GoStub.Syntax.Automaton

def rows4 : List (List Nat) := [
    [0x05494_0603b_0d04b_3f495_4d18c_dd6ba],
    [0x05494_0603b_0d04b_3f495_4d18c_dd6bb],
    [0x05702_0d705_1401d_3f32c_4e18d_6c704_d6697],
    [0x01327_062ab_094be_0a054_0c493_0d067_112d1_12468_132a8_164af_18502_192ce_1a4db_57187_7a4bf,
     0x7b344_a060f_af328],
    [0x01327_062ab_094be_0a05b_0c493_0d067_112d1_12468_132a8_164af_18502_192ce_1a4db_572ea_7a4c6,
     0x7b344_a0610_af328],
    [0x06288_4c18c_df697],
    [0x05498_0603f_090bd_0d04c_2e0a7_2f0a8_3f499_4d1cc_5d34e_940a5_a0636_a30a6_a80a4],
    [0xe1697],
    [0xe165a],
    [0xe1699],
    [0xe16b1],
    [0xe16be],
    [0xe16b1],
    [0xe1698],
    [0xe16b8],
    [0xe165b],
    [0xe169c],
    [0xe16b2],
    [0xe16bd],
    [0xe16bf],
    [0xe16a4],
    [0xe16a0],
    [0xe169a],
    [0xe16b9],
    [0xe169d],
    [0xe16b3],
    [0xe16ac],
    [0xe16ae],
    [0xe16a1],
    [0xe16a6],
    [0xe16a5],
    [0xe169e],
    [0xe16b4],
    [0xe16ad],
    [0xe16af],
    [0xe16ab],
    [0xe16a2],
    [0xe16a7],
    [0xe16a7],
    [0xe169f],
    [0xe16b5],
    [0xe16b0],
    [0xe16a3],
    [0xe16a8],
    [0xe16a9],
    [0xe16aa],
    [0x05702_06704_0d705_1401e_3f32c_4e1cd_d5697],
    [0x0131b_061ca_0c46d_0d050_112ac_12468_132a8_164af_184b0_192a9_1a4b6_77338_7b320_a6658_af328],
    [0x01327_061ca_0c493_0d067_112d1_12468_132a8_164af_18502_192ce_1a4db_77338_7b344_a6658_af328],
    [0x05498_0603f_0d04c_2e0a7_2f0a8_3f499_4d1cc_940a5_a30a6_a56c9_a80a4],
    [0x05498_0603f_0d04c_3f499_4d1cc_d56ba],
    [0x05498_0603f_0d04c_3f499_4d1cc_d56bb],
    [0x05494_0603b_0d04b_3f495_4d18c_a809e_c76bb],
    [0x05494_0603b_0d04b_3f495_4d18c_9409f_a809e_be6bb],
    [0x05494_0603b_0d04b_3f495_4d18c_9409f_a30a0_a809e_ad6bb],
    [0x05494_0603b_0d04b_2e0a1_3f495_4d18c_9409f_a30a0_a809e_aa6bb],
    [0x05498_0603f_0d04c_3f499_4d1cc_a80a4_c66bb],
    [0x05498_0603f_0d04c_3f499_4d1cc_940a5_a80a4_bd6bb],
    [0x05498_0603f_0d04c_3f499_4d1cc_940a5_a30a6_a80a4_ac6bb],
    [0x05498_0603f_0d04c_2e0a7_3f499_4d1cc_940a5_a30a6_a80a4_a96bb],
    [0x05498_0603f_0d04c_2e0a7_2f0a8_3f499_4d1cc_940a5_a0675_a30a6_a80a4],
    [0x05498_0603f_0d04c_2e0a7_2f0a8_3f499_4d1cc_940a5_a0676_a30a6_a80a4],
    [0x0131b_061ca_0c46d_0d050_112ac_12468_132a8_1400d_164af_184b0_192a9_1a4b6_45191_77352_7b320,
     0x91658_af328],
    [0x01327_054bc_062ab_07639_09706_0c493_0d038_0f2b8_112d1_12468_132a8_164af_18502_192ce_1a4db,
     0x3f32c_5824d_7a479_7b344_af328],
    [0x012f2_061f9_0c497_0d06e_112d5_12491_132cd_1400b_164fc_18503_192d3_1a4e4_453de_77386_7b2f5,
     0x8d61b_af2fc],
    [0x05498_0603f_0d04c_2e0a7_2f0a8_3f499_4d1cc_940a5_a0664_a30a6_a80a4],
    [0x012f2_061f9_0c497_0d06e_112d5_12491_132cd_1400b_164fc_18503_192d3_1a4e4_453e4_77399_7b2f5,
     0x8d61c_af2fc],
    [0x012f2_061f9_0c497_0d06e_112d5_12491_132cd_1400b_164fc_18503_192d3_1a4e4_453e6_7739a_7b2f5,
     0x8d61f_af2fc],
    [0x054a2_06048_09096_0d04f_1a099_1e665_2e0b9_2f0ba_3f4a3_4d21e_5d3ab_72636_940b7_a30b8_a80b6],
    [0x0628f_4c1cc_db697],
    [0x05702_06704_0d705_14021_3f32c_4e21f_d3697],
    [0x011c2_062ab_072ec_094c1_0c493_0d067_0f2b1_112d1_12468_132a8_164af_18502_192ce_1a4db_78416,
     0x7a471_7b344_af328],
    [0xdc697],
    [0xdc699],
    [0xdc6b1],
    [0xdc6be],
    [0xdc6b1],
    [0xdc698],
    [0xdc6b8],
    [0xdc69c],
    [0xdc6b2],
    [0xdc6bd],
    [0xdc6bf],
    [0xdc6a4],
    [0xdc6a0],
    [0xdc69a],
    [0xdc6b9],
    [0xdc69d],
    [0xdc6b3],
    [0xdc6ac],
    [0xdc6ae],
    [0xdc6a1],
    [0xdc6a6],
    [0xdc6a5],
    [0xdc69e],
    [0xdc6b4],
    [0xdc6ad],
    [0xdc6af],
    [0xdc6ab],
    [0xdc6a2],
    [0xdc6a7],
    [0xdc6a7],
    [0xdc69f],
    [0xdc6b5],
    [0xdc6b0],
    [0xdc6a3],
    [0xdc6a8],
    [0xdc6a9],
    [0xdc6aa],
    [0x05494_0603b_0d04b_2e0a1_2f0a2_3f495_4d18c_9409f_996c9_a30a0_a809e],
    [0x054a2_06048_0d04f_3f4a3_4d21e_d36ba],
    [0xdc65a],
    [0xdc65b],
    [0x054a2_06048_0d04f_3f4a3_4d21e_d36bb],
    [0x054a2_06048_0d04f_3f4a3_4d21e_a80b6_c36bb],
    [0x054a2_06048_0d04f_3f4a3_4d21e_940b7_a80b6_b96bb],
    [0x054a2_06048_0d04f_3f4a3_4d21e_940b7_a30b8_a76bb_a80b6],
    [0x054a2_06048_0d04f_2e0b9_3f4a3_4d21e_940b7_a26bb_a30b8_a80b6],
    [0x011c2_062ab_072e6_094df_0c493_0d067_0f2b1_112d1_12468_132a8_164af_18502_192ce_1a4db_7843a,
     0x7a471_7b344_af328],
    [0x05494_0603b_0710d_09039_0d04b_0f47c_2e09b_2f09c_3f495_4d18c_65425_94098_a309a_a8097],
    [0x011c2_062ab_072ee_0c493_0d067_0f2b1_112d1_12468_132a8_164af_18502_192ce_1a4db_78480_7a471,
     0x7b344_af328],
    [0x012f2_061f9_0c497_0d06e_112d5_12491_132cd_164fc_18503_192d3_1a4e4_773eb_7b2f5_8f651_af2fc],
    [0x05483_0603b_09096_0d04b_1439f_1b636_2e0c3_2f0c4_3f495_4d18c_5d3ab_940c1_a30c2_a80c0],
    [0x011c2_062ab_072ef_0c493_0d067_0f2b1_112d1_12468_132a8_164af_18502_192ce_1a4db_78480_7a471,
     0x7b344_af328],
    [0x05494_0603b_09096_0d04b_2e0a1_2f0a2_3f495_4d18c_5d3ab_6a636_9409f_a30a0_a809e],
    [0x05702_06704_0d705_1401d_3f32c_4e18d_cd697],
    [0x062a2_4c21e_d7697],
    [0x05702_09639_0d705_1401d_3f32c_4e18d_83704_c9697],
    [0x05494_0603b_0719f_0903d_0d04b_0f47c_2e09b_2f09c_3f495_4d18c_65446_94098_a309a_a8097]]

end GoStub.Syntax.Automaton
