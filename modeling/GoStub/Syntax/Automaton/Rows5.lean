/-! States 516 to 644 of the automaton. -/

namespace GoStub.Syntax.Automaton

def rows5 : List (List Nat) := [
    [0x011c2_062ab_072e8_0c493_0d067_0f2b1_112d1_12468_132a8_164af_18502_192ce_1a4db_78480_7a471,
     0x7b344_af328],
    [0x011c2_062ab_072e9_0c493_0d067_0f2b1_112d1_12468_132a8_164af_18502_192ce_1a4db_78480_7a471,
     0x7b344_af328],
    [0x05494_0603b_071de_09040_0d04b_0f47c_2e09b_2f09c_3f495_4d18c_6544e_94098_a309a_a8097],
    [0x05494_0603b_0713e_09043_0d04b_0f47c_2e09b_2f09c_3f495_4d18c_65456_94098_a309a_a8097],
    [0x05494_0603b_07171_09046_0d04b_0f47c_2e09b_2f09c_3f495_4d18c_6545e_94098_a309a_a8097],
    [0x05494_0603b_07230_09049_0d04b_0f47c_2e09b_2f09c_3f495_4d18c_65466_94098_a309a_a8097],
    [0x012f2_062d0_094c0_0a055_0c497_0d06e_112d5_12491_132cd_164fc_18503_192d3_1a4e4_5820c_7a358,
     0x7b2f5_af2fc],
    [0x01323_062d0_0c497_0d06e_112d5_12491_132cd_15332_164fc_18503_192d3_1a4e4_7a376_7b2f5_7c3b6,
     0xaf2fc],
    [0x012f2_062d0_094c0_0a05d_0c497_0d06e_112d5_12491_132cd_164fc_18503_192d3_1a4e4_3c35b_3d35c,
     0x582f4_7b2f5_af2fc],
    [0x05494_0603b_0d04b_2e0a1_2f0a2_3f495_4d18c_866b6_9409f_a30a0_a809e],
    [0x01327_062ab_094c0_0c493_0d067_112d1_12468_132a8_164af_18502_192ce_1a4db_44481_58211_7a3f6,
     0x7b344_af328],
    [0x01323_062d0_0c497_0d06e_112d5_12491_132cd_1533d_164fc_18503_192d3_1a4e4_7a376_7b2f5_7c3ec,
     0xaf2fc],
    [0x02636_05482_0603b_09096_0d04b_2e0a1_2f0a2_3f495_4d18c_5d3ab_9409f_a30a0_a809e],
    [0x01327_062ab_094c0_0c493_0d067_112d1_12468_132a8_164af_18502_192ce_1a4db_44488_582f4_7a3f6,
     0x7b344_af328],
    [0x01323_062d0_0c497_0d06e_112d5_12491_132cd_15342_164fc_18503_192d3_1a4e4_7a376_7b2f5_7c3ec,
     0xaf2fc],
    [0x05494_0603b_0d04b_0f47c_2e09b_2f09c_3f495_4d18c_6e6d4_94098_a309a_a8097],
    [0x011c2_062ab_0c493_0d067_0f2b1_112d1_12468_132a8_164af_18502_192ce_1a4db_78480_7a471_7b344,
     0xaf328],
    [0x05494_0603b_0d04b_3f495_4d18c_a8097_bf6bb],
    [0x05494_0603b_0d04b_3f495_4d18c_94098_a8097_b16bb],
    [0x05494_0603b_0d04b_3f495_4d18c_94098_9b6bb_a309a_a8097],
    [0x05494_0603b_0d04b_2e09b_3f495_4d18c_926bb_94098_a309a_a8097],
    [0x05494_0603b_090ca_0d04b_14636_2e0c3_2f0c4_3f495_4d18c_5d439_940c1_a30c2_a80c0],
    [0xda65a],
    [0xda65b],
    [0xda697],
    [0x05702_06704_0d705_3f32c_4e18d_cf697],
    [0xda699],
    [0xda6b1],
    [0xda6be],
    [0xda6b1],
    [0xda698],
    [0xda6b8],
    [0xda69c],
    [0xda6b2],
    [0xda6bd],
    [0xda6bf],
    [0xda6a4],
    [0xda6a0],
    [0xda69a],
    [0xda6b9],
    [0xda69d],
    [0xda6b3],
    [0xda6ac],
    [0xda6ae],
    [0xda6a1],
    [0xda6a6],
    [0xda6a5],
    [0xda69e],
    [0xda6b4],
    [0xda6ad],
    [0xda6af],
    [0xda6ab],
    [0xda6a2],
    [0xda6a7],
    [0xda6a7],
    [0xda69f],
    [0xda6b5],
    [0xda6b0],
    [0xda6a3],
    [0xda6a8],
    [0xda6a9],
    [0xda6aa],
    [0x01323_062d0_0c497_0d06e_112d5_12491_132cd_15306_164fc_18503_192d3_1a4e4_7a376_7b2f5_7c3c0,
     0xaf2fc],
    [0x01323_062d0_0c497_0d06e_112d5_12491_132cd_15311_164fc_18503_192d3_1a4e4_7a376_7b2f5_7c3ec,
     0xaf2fc],
    [0x01323_062d0_0c497_0d06e_112d5_12491_132cd_15315_164fc_18503_192d3_1a4e4_7a376_7b2f5_7c3ec,
     0xaf2fc],
    [0x05494_0603b_0d04b_3f495_4d18c_a80c0_c16bb],
    [0x05494_0603b_0d04b_3f495_4d18c_940c1_a80c0_b26bb],
    [0x05494_0603b_0d04b_3f495_4d18c_940c1_9c6bb_a30c2_a80c0],
    [0x05494_0603b_0d04b_2e0c3_3f495_4d18c_936bb_940c1_a30c2_a80c0],
    [0x01373_061ca_0c46d_0d050_112ac_12468_132a8_1400b_164af_184b0_192a9_1a4b6_45102_773d8_7b320,
     0xaf328],
    [0x012f2_062d0_0a2b4_0c497_0d034_112d5_12491_132cd_164fc_18503_192d3_1a4e4_382b5_7a375_7b2f5,
     0xaf2fc],
    [0x05494_0603b_0710b_094cd_0d04b_2e09b_2f09c_3f495_4d18c_94098_a309a_a8097],
    [0x05494_0603b_0d04b_0e10f_1e05f_2e0a1_2f0a2_3f495_4d18c_9409f_a30a0_a809e],
    [0x01327_062ab_094c0_0c493_0d067_112d1_12468_132a8_164af_18502_192ce_1a4db_3c47e_3d47f_582f4,
     0x7b344_af328],
    [0x012f2_062d0_094c8_0c497_0d06e_112d5_12491_132cd_164fc_18503_192d3_1a4e4_3c34b_3d34c_602fb,
     0x7b2f5_af2fc],
    [0x05494_0603b_0d04b_1400b_2e0c3_2f0c4_3f495_4535e_4d18c_940c1_a30c2_a80c0],
    [0x01327_062ab_0c493_0d067_0e33f_112d1_12468_132a8_164af_18502_192ce_1a4db_44484_7a3f6_7b344,
     0xaf328],
    [0x05494_0603b_0d04b_0e116_1e093_2e0a1_2f0a2_3f495_4d18c_9409f_a30a0_a809e],
    [0x01327_062ab_0c493_0d067_0e343_112d1_12468_132a8_164af_18502_192ce_1a4db_44484_7a3f6_7b344,
     0xaf328],
    [0x05494_0603b_0d04b_0e11c_1e094_2e0a1_2f0a2_3f495_4d18c_9409f_a30a0_a809e],
    [0x01323_062d0_0c497_0d06e_112d5_12491_132cd_164fc_18503_192d3_1a4e4_7a376_7b2f5_7c3ec_af2fc],
    [0x05494_0603b_0d04b_2e0a1_2f0a2_3f495_4d18c_6a664_9409f_a30a0_a809e],
    [0x05494_0603b_0d04b_2e09b_2f09c_3f495_4d18c_6e6c9_94098_a309a_a8097],
    [0x0131b_061ca_0c46d_0d050_112ac_12468_132a8_1400b_164af_184b0_192a9_1a4b6_45102_773d8_7b320,
     0xaf328],
    [0x05494_0603b_0719d_094e2_0d04b_2e09b_2f09c_3f495_4d18c_94098_a309a_a8097],
    [0x05494_0603b_0d04b_0e1a1_1e06c_2e0a1_2f0a2_3f495_4d18c_9409f_a30a0_a809e],
    [0x01327_062ab_0c493_0d067_0e313_112d1_12468_132a8_164af_18502_192ce_1a4db_44484_7a3f6_7b344,
     0xaf328],
    [0x05494_0603b_0d04b_0e1a8_1e0d7_2e0a1_2f0a2_3f495_4d18c_9409f_a30a0_a809e],
    [0x01327_062ab_0c493_0d067_0e316_112d1_12468_132a8_164af_18502_192ce_1a4db_44484_7a3f6_7b344,
     0xaf328],
    [0x05494_0603b_0d04b_0e1ae_1e0d8_2e0a1_2f0a2_3f495_4d18c_9409f_a30a0_a809e],
    [0x05494_0603b_0d04b_2e0c3_2f0c4_3f495_4d18c_706c9_940c1_a30c2_a80c0],
    [0x0131b_061ca_0c46d_0d050_112ac_12468_132a8_1400e_164af_184b0_192a9_1a4b6_451d1_773ff_7b320,
     0xaf328],
    [0x05494_0603b_071dc_094e9_0d04b_2e09b_2f09c_3f495_4d18c_94098_a309a_a8097],
    [0x05494_0603b_0d04b_0e1e0_1e071_2e0a1_2f0a2_3f495_4d18c_9409f_a30a0_a809e],
    [0x05494_0603b_0d04b_0e1e7_1e0db_2e0a1_2f0a2_3f495_4d18c_9409f_a30a0_a809e],
    [0x05494_0603b_0d04b_0e1ed_1e0dc_2e0a1_2f0a2_3f495_4d18c_9409f_a30a0_a809e],
    [0x0131b_061ca_0c46d_0d050_112ac_12468_132a8_1400f_164af_184b0_192a9_1a4b6_45131_77404_7b320,
     0xaf328],
    [0x05494_0603b_0713c_094f0_0d04b_2e09b_2f09c_3f495_4d18c_94098_a309a_a8097],
    [0x05494_0603b_0d04b_0e140_1e076_2e0a1_2f0a2_3f495_4d18c_9409f_a30a0_a809e],
    [0x05494_0603b_0d04b_0e147_1e0df_2e0a1_2f0a2_3f495_4d18c_9409f_a30a0_a809e],
    [0x05494_0603b_0d04b_0e14d_1e0e0_2e0a1_2f0a2_3f495_4d18c_9409f_a30a0_a809e],
    [0x0131b_061ca_0c46d_0d050_112ac_12468_132a8_14010_164af_184b0_192a9_1a4b6_45164_77409_7b320,
     0xaf328],
    [0x05494_0603b_0716f_094f5_0d04b_2e09b_2f09c_3f495_4d18c_94098_a309a_a8097],
    [0x05494_0603b_0d04b_0e173_1e07a_2e0a1_2f0a2_3f495_4d18c_9409f_a30a0_a809e],
    [0x05494_0603b_0d04b_0e17a_1e0e3_2e0a1_2f0a2_3f495_4d18c_9409f_a30a0_a809e],
    [0x05494_0603b_0d04b_0e180_1e0e4_2e0a1_2f0a2_3f495_4d18c_9409f_a30a0_a809e],
    [0x0131b_061ca_0c46d_0d050_112ac_12468_132a8_14011_164af_184b0_192a9_1a4b6_45223_7740e_7b320,
     0xaf328],
    [0x05494_0603b_0722e_094fa_0d04b_2e09b_2f09c_3f495_4d18c_94098_a309a_a8097],
    [0x05494_0603b_0d04b_0e232_1e07e_2e0a1_2f0a2_3f495_4d18c_9409f_a30a0_a809e],
    [0x05494_0603b_0d04b_0e239_1e0e7_2e0a1_2f0a2_3f495_4d18c_9409f_a30a0_a809e],
    [0x05494_0603b_0d04b_0e23f_1e0e8_2e0a1_2f0a2_3f495_4d18c_9409f_a30a0_a809e],
    [0x05494_0603b_07101_0d04b_2e09b_2f09c_3f495_4d18c_94098_a309a_a8097],
    [0x05494_0603b_0d04b_0e2b3_2e0a1_2f0a2_3f495_4d18c_9409f_a30a0_a809e],
    [0x01327_062ab_07103_0c493_0d067_112d1_12468_132a8_164af_18502_192ce_1a4db_7a418_7b344_af328],
    [0x01327_062ab_0c493_0d067_112d1_12468_132a8_164af_18502_192ce_1a4db_44419_7a3f6_7b344_af328],
    [0x02017_05494_0603b_0d04b_2e0a1_2f0a2_3f495_4d18c_9409f_a30a0_a809e],
    [0x05494_0603b_0d04b_14680_2e0c3_2f0c4_3f495_4d18c_940c1_a30c2_a80c0],
    [0x02019_05494_0603b_0d04b_2e0a1_2f0a2_3f495_4d18c_9409f_a30a0_a809e],
    [0x01327_062ab_0c493_0d067_104d1_112d1_12468_132a8_164af_18502_192ce_1a4db_7a4f1_7b344_af328],
    [0x01327_062ab_0c493_0d067_0e113_112d1_12468_132a8_164af_18502_192ce_1a4db_7a42f_7b344_af328],
    [0x05494_0603b_0d04b_14681_2e0c3_2f0c4_3f495_4d18c_940c1_a30c2_a80c0],
    [0x01327_062ab_0c493_0d067_0e11a_112d1_12468_132a8_164af_18502_192ce_1a4db_7a42f_7b344_af328],
    [0x01327_062ab_0c493_0d067_104d4_112d1_12468_132a8_164af_18502_192ce_1a4db_7a4e3_7b344_af328],
    [0x01327_062ab_0c493_0d067_104d5_112d1_12468_132a8_164af_18502_192ce_1a4db_7a4e3_7b344_af328],
    [0x05494_0603b_0d04b_1e666_2e0a1_2f0a2_3f495_4d18c_9409f_a30a0_a809e],
    [0x01327_062ab_0c493_0d067_112d1_12468_132a8_164af_18502_192ce_1a4db_44484_7a3f6_7b344_af328],
    [0x05494_0603b_0d04b_0e11d_2e0a1_2f0a2_3f495_4d18c_9409f_a30a0_a809e],
    [0x05494_0603b_0d04b_0e11e_2e0a1_2f0a2_3f495_4d18c_9409f_a30a0_a809e],
    [0x01327_062ab_0c493_0d067_104d8_112d1_12468_132a8_164af_18502_192ce_1a4db_7a4e3_7b344_af328]]

end GoStub.Syntax.Automaton
