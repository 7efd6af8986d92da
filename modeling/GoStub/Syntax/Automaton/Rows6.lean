/-! States 645 to 773 of the automaton. -/

namespace GoStub.Syntax.Automaton

def rows6 : List (List Nat) := [
    [0x05494_0603b_0d04b_14664_2e0c3_2f0c4_3f495_4d18c_940c1_a30c2_a80c0],
    [0x05494_0603b_07190_0d04b_2e09b_2f09c_3f495_4d18c_94098_a309a_a8097],
    [0x05494_0603b_0d04b_0e2c0_2e0a1_2f0a2_3f495_4d18c_9409f_a30a0_a809e],
    [0x01327_062ab_07193_0c493_0d067_112d1_12468_132a8_164af_18502_192ce_1a4db_7a43b_7b344_af328],
    [0x01327_062ab_0c493_0d067_0e1a5_112d1_12468_132a8_164af_18502_192ce_1a4db_7a42f_7b344_af328],
    [0x01327_062ab_0c493_0d067_0e1ac_112d1_12468_132a8_164af_18502_192ce_1a4db_7a42f_7b344_af328],
    [0x05494_0603b_0d04b_0e1af_2e0a1_2f0a2_3f495_4d18c_9409f_a30a0_a809e],
    [0x05494_0603b_0d04b_0e1b0_2e0a1_2f0a2_3f495_4d18c_9409f_a30a0_a809e],
    [0x05494_0603b_071d0_0d04b_2e09b_2f09c_3f495_4d18c_94098_a309a_a8097],
    [0x05494_0603b_0d04b_0e2c5_2e0a1_2f0a2_3f495_4d18c_9409f_a30a0_a809e],
    [0x01327_062ab_071d2_0c493_0d067_112d1_12468_132a8_164af_18502_192ce_1a4db_7a447_7b344_af328],
    [0x01327_062ab_0c493_0d067_0e1e4_112d1_12468_132a8_164af_18502_192ce_1a4db_7a42f_7b344_af328],
    [0x01327_062ab_0c493_0d067_0e1eb_112d1_12468_132a8_164af_18502_192ce_1a4db_7a42f_7b344_af328],
    [0x05494_0603b_0d04b_0e1ee_2e0a1_2f0a2_3f495_4d18c_9409f_a30a0_a809e],
    [0x05494_0603b_0d04b_0e1ef_2e0a1_2f0a2_3f495_4d18c_9409f_a30a0_a809e],
    [0x05494_0603b_07130_0d04b_2e09b_2f09c_3f495_4d18c_94098_a309a_a8097],
    [0x05494_0603b_0d04b_0e2ca_2e0a1_2f0a2_3f495_4d18c_9409f_a30a0_a809e],
    [0x01327_062ab_07132_0c493_0d067_112d1_12468_132a8_164af_18502_192ce_1a4db_7a44f_7b344_af328],
    [0x01327_062ab_0c493_0d067_0e144_112d1_12468_132a8_164af_18502_192ce_1a4db_7a42f_7b344_af328],
    [0x01327_062ab_0c493_0d067_0e14b_112d1_12468_132a8_164af_18502_192ce_1a4db_7a42f_7b344_af328],
    [0x05494_0603b_0d04b_0e14e_2e0a1_2f0a2_3f495_4d18c_9409f_a30a0_a809e],
    [0x05494_0603b_0d04b_0e14f_2e0a1_2f0a2_3f495_4d18c_9409f_a30a0_a809e],
    [0x05494_0603b_07163_0d04b_2e09b_2f09c_3f495_4d18c_94098_a309a_a8097],
    [0x01327_062ab_07165_0c493_0d067_112d1_12468_132a8_164af_18502_192ce_1a4db_7a457_7b344_af328],
    [0x01327_062ab_0c493_0d067_0e177_112d1_12468_132a8_164af_18502_192ce_1a4db_7a42f_7b344_af328],
    [0x01327_062ab_0c493_0d067_0e17e_112d1_12468_132a8_164af_18502_192ce_1a4db_7a42f_7b344_af328],
    [0x05494_0603b_0d04b_0e181_2e0a1_2f0a2_3f495_4d18c_9409f_a30a0_a809e],
    [0x05494_0603b_0d04b_0e182_2e0a1_2f0a2_3f495_4d18c_9409f_a30a0_a809e],
    [0x05494_0603b_07222_0d04b_2e09b_2f09c_3f495_4d18c_94098_a309a_a8097],
    [0x01327_062ab_07224_0c493_0d067_112d1_12468_132a8_164af_18502_192ce_1a4db_7a45f_7b344_af328],
    [0x01327_062ab_0c493_0d067_0e236_112d1_12468_132a8_164af_18502_192ce_1a4db_7a42f_7b344_af328],
    [0x01327_062ab_0c493_0d067_0e23d_112d1_12468_132a8_164af_18502_192ce_1a4db_7a42f_7b344_af328],
    [0x05494_0603b_0d04b_0e240_2e0a1_2f0a2_3f495_4d18c_9409f_a30a0_a809e],
    [0x05494_0603b_0d04b_0e241_2e0a1_2f0a2_3f495_4d18c_9409f_a30a0_a809e],
    [0x01327_062ab_0c493_0d067_112d1_12468_132a8_164af_18502_192ce_1a4db_4443c_7a3f6_7b344_af328],
    [0x0131b_062ab_0c46d_0d050_112ac_12468_132a8_164af_184b0_192a9_1a4b6_7a32a_7b320_af328],
    [0x0131b_062ab_0c46d_0d050_112ac_12468_132a8_164af_184b0_192a9_1a2ae_7a32b_7b320_af328],
    [0x0131b_062ab_0c46d_0d050_112ac_12468_132a8_164af_184b0_192a9_1a4b6_7a32f_7b320_af328],
    [0x01327_062ab_0c493_0d067_112d1_12468_132a8_164af_18502_192ce_1a4db_7a4c2_7b344_af328],
    [0x0131b_062ab_0c46d_0d050_112ac_12468_132a8_164af_184b0_192a9_1a4b6_7a331_7b320_af328],
    [0x01327_062ab_0c493_0d067_112d1_12468_132a8_164af_18502_192ce_1a4db_7a4c3_7b344_af328],
    [0x0131b_062ab_0c46d_0d050_112ac_12468_132a8_164af_184b0_192af_1a4b6_7a333_7b320_af328],
    [0x0131b_062ab_0c46d_0d050_112ac_12468_132a8_164af_184b0_192a9_1a2ae_7a334_7b320_af328],
    [0x01327_062ab_0c493_0d067_112d1_12468_132a8_164af_18502_192ce_1a4db_7a41c_7b344_af328],
    [0x01327_062ab_0c493_0d067_112d1_12468_132a8_164af_18502_192ce_1a4db_7a478_7b344_af328],
    [0x01327_062ab_0c493_0d067_112d1_12468_132a8_164af_18502_192ce_1a4db_7a4c7_7b344_af328],
    [0x0131b_062ab_0c46d_0d050_112ac_12468_132a8_164af_184b0_192a9_1a4b6_7a336_7b320_af328],
    [0x012f2_062d0_0c497_0d06e_112d5_12491_132cd_164fc_18503_192d3_1a4e4_7a388_7b2f5_af2fc],
    [0x012f2_062d0_0c497_0d06e_112d5_12491_132cd_164fc_18503_192d3_1a4e4_7a389_7b2f5_af2fc],
    [0x0131b_062ab_0c46d_0d050_112ac_12468_132a8_164af_184b0_192a9_1a4b6_7a339_7b320_af328],
    [0x01327_062ab_0c493_0d067_112d1_12468_132a8_164af_18502_192ce_1a4db_7a4ce_7b344_af328],
    [0x01327_062ab_0c493_0d067_112d1_12468_132a8_164af_18502_192ce_1a4db_7a47d_7b344_af328],
    [0x012f2_062d0_0c497_0d06e_112d5_12491_132cd_164fc_18503_192d3_1a4e4_7a3bd_7b2f5_af2fc],
    [0x0131b_062ab_0c46d_0d050_112ac_12468_132a8_164af_184b0_192a9_1a4b6_7a33e_7b320_af328],
    [0x01327_062ab_0c493_0d067_112d1_12468_132a8_164af_18502_192ce_1a4db_7a42b_7b344_af328],
    [0x0548b_0603b_0d04b_2e0a1_2f0a2_3f495_4d18c_9409f_a30a0_a809e],
    [0x01327_062ab_0c493_0d067_112d1_12468_132a8_164af_18502_192ce_1a4db_7a42f_7b344_af328],
    [0x01327_062ab_0c493_0d067_112d1_12468_132a8_164af_18502_192bf_1a4db_7a333_7b344_af328],
    [0x01327_062ab_0c493_0d067_112d1_12468_132a8_164af_18502_192ce_1a2be_7a334_7b344_af328],
    [0x01327_062ab_0c493_0d067_112d1_12468_132a8_164af_18502_192ce_1a4db_7a336_7b344_af328],
    [0x01327_062ab_0c493_0d067_112d1_12468_132a8_164af_18502_192ce_1a4db_7a339_7b344_af328],
    [0x01327_062ab_0c493_0d067_112d1_12468_132a8_164af_18502_192ce_1a4db_7a33e_7b344_af328],
    [0x012f2_062d0_0c497_0d06e_112d5_12491_132cd_164fc_18503_192c4_1a4e4_7a307_7b2f5_af2fc],
    [0x012f2_062d0_0c497_0d06e_112d5_12491_132cd_164fc_18503_192d3_1a2c3_7a308_7b2f5_af2fc],
    [0x012f2_062d0_0c497_0d06e_112d5_12491_132cd_164fc_18503_192d3_1a4e4_7a30a_7b2f5_af2fc],
    [0x012f2_062d0_0c497_0d06e_112d5_12491_132cd_164fc_18503_192d3_1a4e4_7a30d_7b2f5_af2fc],
    [0x012f2_062d0_0c497_0d06e_112d5_12491_132cd_164fc_18503_192d3_1a4e4_7a312_7b2f5_af2fc],
    [0x012f3_062d0_0c49b_0d073_112d8_12491_132cd_164fc_18504_192c9_1a4eb_7a307_7b2f6_af2fc],
    [0x012f3_062d0_0c49b_0d073_112d8_12491_132cd_164fc_18504_192d6_1a2c8_7a308_7b2f6_af2fc],
    [0x012f3_062d0_0c49b_0d073_112d8_12491_132cd_164fc_18504_192d6_1a4eb_7a30a_7b2f6_af2fc],
    [0x012f3_062d0_0c49b_0d073_112d8_12491_132cd_164fc_18504_192d6_1a4eb_7a30d_7b2f6_af2fc],
    [0x012f3_062d0_0c49b_0d073_112d8_12491_132cd_164fc_18504_192d6_1a4eb_7a312_7b2f6_af2fc],
    [0x012f3_062d0_0c49b_0d073_112d8_12491_132cd_164fc_18504_192d6_1a4eb_7a2fe_7b2f6_af2fc],
    [0x01327_062ab_0c493_0d067_112d1_12468_132a8_164af_18502_192ce_1a2be_7a32b_7b344_af328],
    [0x01327_062ab_0c493_0d067_112d1_12468_132a8_164af_18502_192ce_1a4db_7a32f_7b344_af328],
    [0x01327_062ab_0c493_0d067_112d1_12468_132a8_164af_18502_192ce_1a4db_7a4da_7b344_af328],
    [0x01327_062ab_0c493_0d067_112d1_12468_132a8_164af_18502_192ce_1a4db_7a331_7b344_af328],
    [0x01327_062ab_0c493_0d067_112d1_12468_132a8_164af_18502_192ce_1a4db_7a438_7b344_af328],
    [0x012f2_062d0_0c497_0d06e_112d5_12491_132cd_164fc_18503_192d3_1a2c3_7a2ff_7b2f5_af2fc],
    [0x012f2_062d0_0c497_0d06e_112d5_12491_132cd_164fc_18503_192d3_1a4e4_7a303_7b2f5_af2fc],
    [0x012f2_062d0_0c497_0d06e_112d5_12491_132cd_164fc_18503_192d3_1a4e4_7a305_7b2f5_af2fc],
    [0x012f3_062d0_0c49b_0d073_112d8_12491_132cd_164fc_18504_192d6_1a2c8_7a2ff_7b2f6_af2fc],
    [0x012f3_062d0_0c49b_0d073_112d8_12491_132cd_164fc_18504_192d6_1a4eb_7a303_7b2f6_af2fc],
    [0x012f3_062d0_0c49b_0d073_112d8_12491_132cd_164fc_18504_192d6_1a4eb_7a305_7b2f6_af2fc],
    [0x01327_062ab_0c493_0d067_112d1_12468_132a8_164af_18502_192ce_1a4db_7a4e0_7b344_af328],
    [0x01327_062ab_0c493_0d067_112d1_12468_132a8_164af_18502_192ce_1a4db_7a43e_7b344_af328],
    [0x01327_062ab_0c493_0d067_112d1_12468_132a8_164af_18502_192ce_1a4db_7a4e3_7b344_af328],
    [0x01327_062ab_0c493_0d067_112d1_12468_132a8_164af_18502_192ce_1a4db_7a4e7_7b344_af328],
    [0x01327_062ab_0c493_0d067_112d1_12468_132a8_164af_18502_192ce_1a4db_7a449_7b344_af328],
    [0x01327_062ab_0c493_0d067_112d1_12468_132a8_164af_18502_192ce_1a4db_7a4ea_7b344_af328],
    [0x01327_062ab_0c493_0d067_112d1_12468_132a8_164af_18502_192ce_1a4db_7a4ee_7b344_af328],
    [0x01327_062ab_0c493_0d067_112d1_12468_132a8_164af_18502_192ce_1a4db_7a451_7b344_af328],
    [0x01327_062ab_0c493_0d067_112d1_12468_132a8_164af_18502_192ce_1a4db_7a4f1_7b344_af328],
    [0x01327_062ab_0c493_0d067_112d1_12468_132a8_164af_18502_192ce_1a4db_7a459_7b344_af328],
    [0x01327_062ab_0c493_0d067_112d1_12468_132a8_164af_18502_192ce_1a4db_7a4f6_7b344_af328],
    [0x01327_062ab_0c493_0d067_112d1_12468_132a8_164af_18502_192ce_1a4db_7a461_7b344_af328],
    [0x01327_062ab_0c493_0d067_112d1_12468_132a8_164af_18502_192ce_1a4db_7a4fb_7b344_af328],
    [0xd1627],
    [0xd1628],
    [0xd1629],
    [0xd162a],
    [0x572ea_c56c3],
    [0xc56c3],
    [0xc4627],
    [0xc4628],
    [0xc4629],
    [0xc462a],
    [0x09088_5d2f1_ba637],
    [0x5d2f1_bb6c9],
    [0x054dd_0d2a7_3f300_b4639],
    [0x054dd_0d707_3f300_b4639],
    [0x582f4_b86c4],
    [0x0d2a7_3f301_b463a],
    [0x0d708_3f301_b463a],
    [0x1b053_b6052],
    [0x0a035_1b036_b3065],
    [0x1b058_b6065],
    [0xb86c4],
    [0x602fb_b56cc],
    [0xb763a],
    [0xb7643],
    [0xb7644],
    [0xb7656],
    [0xb763b],
    [0xb763b],
    [0xb7638],
    [0xb7642],
    [0xb7645],
    [0xb763f]]

end GoStub.Syntax.Automaton
