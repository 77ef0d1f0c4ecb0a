import FederatedPresence.Text.RangeTable

/-!
# Texts in quotes

A text is shown between double quotes with the characters escaped that could not be seen, or would
end the text. Control, format, private, unassigned and separator characters cannot be seen by
themselves, nor can marks that extend the character before them; the space can.
-/

namespace FederatedPresence.Text

/-- The characters that cannot be seen by themselves: `N` begins a range of them, `-` ends it. -/
def unseenRows : List String :=
  ["0:N 20:- 7F:N A1:- AD:N AE:- 300:N 370:- 378:N 37A:- 380:N 384:- 38B:N 38C:- 38D:N 38E:-",
  "3A2:N 3A3:- 483:N 48A:- 530:N 531:- 557:N 559:- 58B:N 58D:- 590:N 5BE:- 5BF:N 5C0:- 5C1:N",
  "5C3:- 5C4:N 5C6:- 5C7:N 5D0:- 5EB:N 5EF:- 5F5:N 606:- 610:N 61B:- 61C:N 61D:- 64B:N 660:-",
  "670:N 671:- 6D6:N 6DE:- 6DF:N 6E5:- 6E7:N 6E9:- 6EA:N 6EE:- 70E:N 710:- 711:N 712:- 730:N",
  "74D:- 7A6:N 7B1:- 7B2:N 7C0:- 7EB:N 7F4:- 7FB:N 7FE:- 816:N 81A:- 81B:N 824:- 825:N 828:-",
  "829:N 830:- 83F:N 840:- 859:N 85E:- 85F:N 860:- 86B:N 870:- 890:N 8A0:- 8CA:N 903:- 93A:N",
  "93B:- 93C:N 93D:- 941:N 949:- 94D:N 94E:- 951:N 958:- 962:N 964:- 981:N 982:- 984:N 985:-",
  "98D:N 98F:- 991:N 993:- 9A9:N 9AA:- 9B1:N 9B2:- 9B3:N 9B6:- 9BA:N 9BD:- 9BE:N 9BF:- 9C1:N",
  "9C7:- 9C9:N 9CB:- 9CD:N 9CE:- 9CF:N 9DC:- 9DE:N 9DF:- 9E2:N 9E6:- 9FE:N A03:- A04:N A05:-",
  "A0B:N A0F:- A11:N A13:- A29:N A2A:- A31:N A32:- A34:N A35:- A37:N A38:- A3A:N A3E:- A41:N",
  "A59:- A5D:N A5E:- A5F:N A66:- A70:N A72:- A75:N A76:- A77:N A83:- A84:N A85:- A8E:N A8F:-",
  "A92:N A93:- AA9:N AAA:- AB1:N AB2:- AB4:N AB5:- ABA:N ABD:- AC1:N AC9:- ACA:N ACB:- ACD:N",
  "AD0:- AD1:N AE0:- AE2:N AE6:- AF2:N AF9:- AFA:N B02:- B04:N B05:- B0D:N B0F:- B11:N B13:-",
  "B29:N B2A:- B31:N B32:- B34:N B35:- B3A:N B3D:- B3E:N B40:- B41:N B47:- B49:N B4B:- B4D:N",
  "B5C:- B5E:N B5F:- B62:N B66:- B78:N B83:- B84:N B85:- B8B:N B8E:- B91:N B92:- B96:N B99:-",
  "B9B:N B9C:- B9D:N B9E:- BA0:N BA3:- BA5:N BA8:- BAB:N BAE:- BBA:N BBF:- BC0:N BC1:- BC3:N",
  "BC6:- BC9:N BCA:- BCD:N BD0:- BD1:N BE6:- BFB:N C01:- C04:N C05:- C0D:N C0E:- C11:N C12:-",
  "C29:N C2A:- C3A:N C3D:- C3E:N C41:- C45:N C58:- C5B:N C5C:- C5E:N C60:- C62:N C66:- C70:N",
  "C77:- C81:N C82:- C8D:N C8E:- C91:N C92:- CA9:N CAA:- CB4:N CB5:- CBA:N CBD:- CBF:N CC1:-",
  "CC2:N CC3:- CC5:N CDC:- CDF:N CE0:- CE2:N CE6:- CF0:N CF1:- CF4:N D02:- D0D:N D0E:- D11:N",
  "D12:- D3B:N D3D:- D3E:N D3F:- D41:N D46:- D49:N D4A:- D4D:N D4E:- D50:N D54:- D57:N D58:-",
  "D62:N D66:- D80:N D82:- D84:N D85:- D97:N D9A:- DB2:N DB3:- DBC:N DBD:- DBE:N DC0:- DC7:N",
  "DD0:- DD2:N DD8:- DDF:N DE6:- DF0:N DF2:- DF5:N E01:- E31:N E32:- E34:N E3F:- E47:N E4F:-",
  "E5C:N E81:- E83:N E84:- E85:N E86:- E8B:N E8C:- EA4:N EA5:- EA6:N EA7:- EB1:N EB2:- EB4:N",
  "EBD:- EBE:N EC0:- EC5:N EC6:- EC7:N ED0:- EDA:N EDC:- EE0:N F00:- F18:N F1A:- F35:N F36:-",
  "F37:N F38:- F39:N F3A:- F48:N F49:- F6D:N F7F:- F80:N F85:- F86:N F88:- F8D:N FBE:- FC6:N",
  "FC7:- FCD:N FCE:- FDB:N 1000:- 102D:N 1031:- 1032:N 1038:- 1039:N 103B:- 103D:N 103F:-",
  "1058:N 105A:- 105E:N 1061:- 1071:N 1075:- 1082:N 1083:- 1085:N 1087:- 108D:N 108E:- 109D:N",
  "109E:- 10C6:N 10C7:- 10C8:N 10CD:- 10CE:N 10D0:- 115F:N 1161:- 1249:N 124A:- 124E:N 1250:-",
  "1257:N 1258:- 1259:N 125A:- 125E:N 1260:- 1289:N 128A:- 128E:N 1290:- 12B1:N 12B2:- 12B6:N",
  "12B8:- 12BF:N 12C0:- 12C1:N 12C2:- 12C6:N 12C8:- 12D7:N 12D8:- 1311:N 1312:- 1316:N 1318:-",
  "135B:N 1360:- 137D:N 1380:- 139A:N 13A0:- 13F6:N 13F8:- 13FE:N 1400:- 1680:N 1681:- 169D:N",
  "16A0:- 16F9:N 1700:- 1712:N 171F:- 1732:N 1735:- 1737:N 1740:- 1752:N 1760:- 176D:N 176E:-",
  "1771:N 1780:- 17B4:N 17B6:- 17B7:N 17BE:- 17C6:N 17C7:- 17C9:N 17D4:- 17DD:N 17E0:- 17EA:N",
  "17F0:- 17FA:N 1800:- 180B:N 1810:- 181A:N 1820:- 1879:N 1880:- 1885:N 1887:- 18A9:N 18AA:-",
  "18AB:N 18B0:- 18F6:N 1900:- 191F:N 1923:- 1927:N 1929:- 192C:N 1930:- 1932:N 1933:- 1939:N",
  "1940:- 1941:N 1944:- 196E:N 1970:- 1975:N 1980:- 19AC:N 19B0:- 19CA:N 19D0:- 19DB:N 19DE:-",
  "1A17:N 1A19:- 1A1B:N 1A1E:- 1A56:N 1A57:- 1A58:N 1A61:- 1A62:N 1A63:- 1A65:N 1A6D:- 1A73:N",
  "1A80:- 1A8A:N 1A90:- 1A9A:N 1AA0:- 1AAE:N 1B04:- 1B34:N 1B3E:- 1B42:N 1B45:- 1B4D:N 1B4E:-",
  "1B6B:N 1B74:- 1B80:N 1B82:- 1BA2:N 1BA6:- 1BA8:N 1BAE:- 1BE6:N 1BE7:- 1BE8:N 1BEA:- 1BED:N",
  "1BEE:- 1BEF:N 1BFC:- 1C2C:N 1C34:- 1C36:N 1C3B:- 1C4A:N 1C4D:- 1C8B:N 1C90:- 1CBB:N 1CBD:-",
  "1CC8:N 1CD3:- 1CD4:N 1CE1:- 1CE2:N 1CE9:- 1CED:N 1CEE:- 1CF4:N 1CF5:- 1CF8:N 1CFA:- 1CFB:N",
  "1D00:- 1DC0:N 1E00:- 1F16:N 1F18:- 1F1E:N 1F20:- 1F46:N 1F48:- 1F4E:N 1F50:- 1F58:N 1F59:-",
  "1F5A:N 1F5B:- 1F5C:N 1F5D:- 1F5E:N 1F5F:- 1F7E:N 1F80:- 1FB5:N 1FB6:- 1FC5:N 1FC6:- 1FD4:N",
  "1FD6:- 1FDC:N 1FDD:- 1FF0:N 1FF2:- 1FF5:N 1FF6:- 1FFF:N 2010:- 2028:N 2030:- 205F:N 2070:-",
  "2072:N 2074:- 208F:N 2090:- 209D:N 20A0:- 20C2:N 2100:- 218C:N 2190:- 242A:N 2440:- 244B:N",
  "2460:- 2B74:N 2B76:- 2CEF:N 2CF2:- 2CF4:N 2CF9:- 2D26:N 2D27:- 2D28:N 2D2D:- 2D2E:N 2D30:-",
  "2D68:N 2D6F:- 2D71:N 2D80:- 2D97:N 2DA0:- 2DA7:N 2DA8:- 2DAF:N 2DB0:- 2DB7:N 2DB8:- 2DBF:N",
  "2DC0:- 2DC7:N 2DC8:- 2DCF:N 2DD0:- 2DD7:N 2DD8:- 2DDF:N 2E00:- 2E5E:N 2E80:- 2E9A:N 2E9B:-",
  "2EF4:N 2F00:- 2FD6:N 2FF0:- 3000:N 3001:- 302A:N 3030:- 3040:N 3041:- 3097:N 309B:- 3100:N",
  "3105:- 3130:N 3131:- 3164:N 3165:- 318F:N 3190:- 31E6:N 31EF:- 321F:N 3220:- A48D:N A490:-",
  "A4C7:N A4D0:- A62C:N A640:- A66F:N A673:- A674:N A67E:- A69E:N A6A0:- A6F0:N A6F2:- A6F8:N",
  "A700:- A7DD:N A7F1:- A802:N A803:- A806:N A807:- A80B:N A80C:- A825:N A827:- A82C:N A830:-",
  "A83A:N A840:- A878:N A880:- A8C4:N A8CE:- A8DA:N A8F2:- A8FF:N A900:- A926:N A92E:- A947:N",
  "A952:- A953:N A95F:- A97D:N A983:- A9B3:N A9B4:- A9B6:N A9BA:- A9BC:N A9BE:- A9C0:N A9C1:-",
  "A9CE:N A9CF:- A9DA:N A9DE:- A9E5:N A9E6:- A9FF:N AA00:- AA29:N AA2F:- AA31:N AA33:- AA35:N",
  "AA40:- AA43:N AA44:- AA4C:N AA4D:- AA4E:N AA50:- AA5A:N AA5C:- AA7C:N AA7D:- AAB0:N AAB1:-",
  "AAB2:N AAB5:- AAB7:N AAB9:- AABE:N AAC0:- AAC1:N AAC2:- AAC3:N AADB:- AAEC:N AAEE:- AAF6:N",
  "AB01:- AB07:N AB09:- AB0F:N AB11:- AB17:N AB20:- AB27:N AB28:- AB2F:N AB30:- AB6C:N AB70:-",
  "ABE5:N ABE6:- ABE8:N ABE9:- ABED:N ABF0:- ABFA:N AC00:- D7A4:N D7B0:- D7C7:N D7CB:- D7FC:N",
  "D800:- E000:N F900:- FA6E:N FA70:- FADA:N FB00:- FB07:N FB13:- FB18:N FB1D:- FB1E:N FB1F:-",
  "FB37:N FB38:- FB3D:N FB3E:- FB3F:N FB40:- FB42:N FB43:- FB45:N FB46:- FDD0:N FDF0:- FE00:N",
  "FE10:- FE1A:N FE30:- FE53:N FE54:- FE67:N FE68:- FE6C:N FE70:- FE75:N FE76:- FEFD:N FF01:-",
  "FFA0:N FFA1:- FFBF:N FFC2:- FFC8:N FFCA:- FFD0:N FFD2:- FFD8:N FFDA:- FFDD:N FFE0:- FFE7:N",
  "FFE8:- FFEF:N FFFC:- FFFE:N 10000:- 1000C:N 1000D:- 10027:N 10028:- 1003B:N 1003C:- 1003E:N",
  "1003F:- 1004E:N 10050:- 1005E:N 10080:- 100FB:N 10100:- 10103:N 10107:- 10134:N 10137:-",
  "1018F:N 10190:- 1019D:N 101A0:- 101A1:N 101D0:- 101FD:N 10280:- 1029D:N 102A0:- 102D1:N",
  "102E1:- 102FC:N 10300:- 10324:N 1032D:- 1034B:N 10350:- 10376:N 10380:- 1039E:N 1039F:-",
  "103C4:N 103C8:- 103D6:N 10400:- 1049E:N 104A0:- 104AA:N 104B0:- 104D4:N 104D8:- 104FC:N",
  "10500:- 10528:N 10530:- 10564:N 1056F:- 1057B:N 1057C:- 1058B:N 1058C:- 10593:N 10594:-",
  "10596:N 10597:- 105A2:N 105A3:- 105B2:N 105B3:- 105BA:N 105BB:- 105BD:N 105C0:- 105F4:N",
  "10600:- 10737:N 10740:- 10756:N 10760:- 10768:N 10780:- 10786:N 10787:- 107B1:N 107B2:-",
  "107BB:N 10800:- 10806:N 10808:- 10809:N 1080A:- 10836:N 10837:- 10839:N 1083C:- 1083D:N",
  "1083F:- 10856:N 10857:- 1089F:N 108A7:- 108B0:N 108E0:- 108F3:N 108F4:- 108F6:N 108FB:-",
  "1091C:N 1091F:- 1093A:N 1093F:- 1095A:N 10980:- 109B8:N 109BC:- 109D0:N 109D2:- 10A01:N",
  "10A10:- 10A14:N 10A15:- 10A18:N 10A19:- 10A36:N 10A40:- 10A49:N 10A50:- 10A59:N 10A60:-",
  "10AA0:N 10AC0:- 10AE5:N 10AEB:- 10AF7:N 10B00:- 10B36:N 10B39:- 10B56:N 10B58:- 10B73:N",
  "10B78:- 10B92:N 10B99:- 10B9D:N 10BA9:- 10BB0:N 10C00:- 10C49:N 10C80:- 10CB3:N 10CC0:-",
  "10CF3:N 10CFA:- 10D24:N 10D30:- 10D3A:N 10D40:- 10D66:N 10D6E:- 10D86:N 10D8E:- 10D90:N",
  "10E60:- 10E7F:N 10E80:- 10EAA:N 10EAD:- 10EAE:N 10EB0:- 10EB2:N 10EC2:- 10EC8:N 10ED0:-",
  "10ED9:N 10F00:- 10F28:N 10F30:- 10F46:N 10F51:- 10F5A:N 10F70:- 10F82:N 10F86:- 10F8A:N",
  "10FB0:- 10FCC:N 10FE0:- 10FF7:N 11000:- 11001:N 11002:- 11038:N 11047:- 1104E:N 11052:-",
  "11070:N 11071:- 11073:N 11075:- 11076:N 11082:- 110B3:N 110B7:- 110B9:N 110BB:- 110BD:N",
  "110BE:- 110C2:N 110D0:- 110E9:N 110F0:- 110FA:N 11103:- 11127:N 1112C:- 1112D:N 11136:-",
  "11148:N 11150:- 11173:N 11174:- 11177:N 11182:- 111B6:N 111BF:- 111C0:N 111C1:- 111C9:N",
  "111CD:- 111CF:N 111D0:- 111E0:N 111E1:- 111F5:N 11200:- 11212:N 11213:- 1122F:N 11232:-",
  "11234:N 11238:- 1123E:N 1123F:- 11241:N 11280:- 11287:N 11288:- 11289:N 1128A:- 1128E:N",
  "1128F:- 1129E:N 1129F:- 112AA:N 112B0:- 112DF:N 112E0:- 112E3:N 112F0:- 112FA:N 11302:-",
  "11304:N 11305:- 1130D:N 1130F:- 11311:N 11313:- 11329:N 1132A:- 11331:N 11332:- 11334:N",
  "11335:- 1133A:N 1133D:- 1133E:N 1133F:- 11340:N 11341:- 11345:N 11347:- 11349:N 1134B:-",
  "1134D:N 11350:- 11351:N 1135D:- 11364:N 11380:- 1138A:N 1138B:- 1138C:N 1138E:- 1138F:N",
  "11390:- 113B6:N 113B7:- 113B8:N 113B9:- 113BB:N 113CA:- 113CB:N 113CC:- 113CE:N 113D1:-",
  "113D2:N 113D3:- 113D6:N 113D7:- 113D9:N 11400:- 11438:N 11440:- 11442:N 11445:- 11446:N",
  "11447:- 1145C:N 1145D:- 1145E:N 1145F:- 11462:N 11480:- 114B0:N 114B1:- 114B3:N 114B9:-",
  "114BA:N 114BB:- 114BD:N 114BE:- 114BF:N 114C1:- 114C2:N 114C4:- 114C8:N 114D0:- 114DA:N",
  "11580:- 115AF:N 115B0:- 115B2:N 115B8:- 115BC:N 115BE:- 115BF:N 115C1:- 115DC:N 11600:-",
  "11633:N 1163B:- 1163D:N 1163E:- 1163F:N 11641:- 11645:N 11650:- 1165A:N 11660:- 1166D:N",
  "11680:- 116AB:N 116AC:- 116AD:N 116AE:- 116B0:N 116B8:- 116BA:N 116C0:- 116CA:N 116D0:-",
  "116E4:N 11700:- 1171B:N 1171E:- 1171F:N 11720:- 11722:N 11726:- 11727:N 11730:- 11747:N",
  "11800:- 1182F:N 11838:- 11839:N 1183B:- 1183C:N 118A0:- 118F3:N 118FF:- 11907:N 11909:-",
  "1190A:N 1190C:- 11914:N 11915:- 11917:N 11918:- 11930:N 11931:- 11936:N 11937:- 11939:N",
  "1193F:- 11943:N 11944:- 11947:N 11950:- 1195A:N 119A0:- 119A8:N 119AA:- 119D4:N 119DC:-",
  "119E0:N 119E1:- 119E5:N 11A00:- 11A01:N 11A0B:- 11A33:N 11A39:- 11A3B:N 11A3F:- 11A47:N",
  "11A50:- 11A51:N 11A57:- 11A59:N 11A5C:- 11A8A:N 11A97:- 11A98:N 11A9A:- 11AA3:N 11AB0:-",
  "11AF9:N 11B00:- 11B0A:N 11B61:- 11B62:N 11B65:- 11B66:N 11B67:- 11B68:N 11BC0:- 11BE2:N",
  "11BF0:- 11BFA:N 11C00:- 11C09:N 11C0A:- 11C30:N 11C3E:- 11C3F:N 11C40:- 11C46:N 11C50:-",
  "11C6D:N 11C70:- 11C90:N 11CA9:- 11CAA:N 11CB1:- 11CB2:N 11CB4:- 11CB5:N 11D00:- 11D07:N",
  "11D08:- 11D0A:N 11D0B:- 11D31:N 11D46:- 11D47:N 11D50:- 11D5A:N 11D60:- 11D66:N 11D67:-",
  "11D69:N 11D6A:- 11D8F:N 11D93:- 11D95:N 11D96:- 11D97:N 11D98:- 11D99:N 11DA0:- 11DAA:N",
  "11DB0:- 11DDC:N 11DE0:- 11DEA:N 11EE0:- 11EF3:N 11EF5:- 11EF9:N 11F02:- 11F11:N 11F12:-",
  "11F36:N 11F3E:- 11F40:N 11F43:- 11F5A:N 11FB0:- 11FB1:N 11FC0:- 11FF2:N 11FFF:- 1239A:N",
  "12400:- 1246F:N 12470:- 12475:N 12480:- 12544:N 12F90:- 12FF3:N 13000:- 13430:N 13441:-",
  "13447:N 13460:- 143FB:N 14400:- 14647:N 16100:- 1611E:N 1612A:- 1612D:N 16130:- 1613A:N",
  "16800:- 16A39:N 16A40:- 16A5F:N 16A60:- 16A6A:N 16A6E:- 16ABF:N 16AC0:- 16ACA:N 16AD0:-",
  "16AEE:N 16AF5:- 16AF6:N 16B00:- 16B30:N 16B37:- 16B46:N 16B50:- 16B5A:N 16B5B:- 16B62:N",
  "16B63:- 16B78:N 16B7D:- 16B90:N 16D40:- 16D7A:N 16E40:- 16E9B:N 16EA0:- 16EB9:N 16EBB:-",
  "16ED4:N 16F00:- 16F4B:N 16F50:- 16F88:N 16F93:- 16FA0:N 16FE0:- 16FE4:N 16FF2:- 16FF7:N",
  "17000:- 18CD6:N 18CFF:- 18D1F:N 18D80:- 18DF3:N 1AFF0:- 1AFF4:N 1AFF5:- 1AFFC:N 1AFFD:-",
  "1AFFF:N 1B000:- 1B123:N 1B132:- 1B133:N 1B150:- 1B153:N 1B155:- 1B156:N 1B164:- 1B168:N",
  "1B170:- 1B2FC:N 1BC00:- 1BC6B:N 1BC70:- 1BC7D:N 1BC80:- 1BC89:N 1BC90:- 1BC9A:N 1BC9C:-",
  "1BC9D:N 1BC9F:- 1BCA0:N 1CC00:- 1CCFD:N 1CD00:- 1CEB4:N 1CEBA:- 1CED1:N 1CEE0:- 1CEF1:N",
  "1CF50:- 1CFC4:N 1D000:- 1D0F6:N 1D100:- 1D127:N 1D129:- 1D165:N 1D16A:- 1D16D:N 1D183:-",
  "1D185:N 1D18C:- 1D1AA:N 1D1AE:- 1D1EB:N 1D200:- 1D242:N 1D245:- 1D246:N 1D2C0:- 1D2D4:N",
  "1D2E0:- 1D2F4:N 1D300:- 1D357:N 1D360:- 1D379:N 1D400:- 1D455:N 1D456:- 1D49D:N 1D49E:-",
  "1D4A0:N 1D4A2:- 1D4A3:N 1D4A5:- 1D4A7:N 1D4A9:- 1D4AD:N 1D4AE:- 1D4BA:N 1D4BB:- 1D4BC:N",
  "1D4BD:- 1D4C4:N 1D4C5:- 1D506:N 1D507:- 1D50B:N 1D50D:- 1D515:N 1D516:- 1D51D:N 1D51E:-",
  "1D53A:N 1D53B:- 1D53F:N 1D540:- 1D545:N 1D546:- 1D547:N 1D54A:- 1D551:N 1D552:- 1D6A6:N",
  "1D6A8:- 1D7CC:N 1D7CE:- 1DA00:N 1DA37:- 1DA3B:N 1DA6D:- 1DA75:N 1DA76:- 1DA84:N 1DA85:-",
  "1DA8C:N 1DF00:- 1DF1F:N 1DF25:- 1DF2B:N 1E030:- 1E06E:N 1E100:- 1E12D:N 1E137:- 1E13E:N",
  "1E140:- 1E14A:N 1E14E:- 1E150:N 1E290:- 1E2AE:N 1E2C0:- 1E2EC:N 1E2F0:- 1E2FA:N 1E2FF:-",
  "1E300:N 1E4D0:- 1E4EC:N 1E4F0:- 1E4FA:N 1E5D0:- 1E5EE:N 1E5F0:- 1E5FB:N 1E5FF:- 1E600:N",
  "1E6C0:- 1E6DF:N 1E6E0:- 1E6E3:N 1E6E4:- 1E6E6:N 1E6E7:- 1E6EE:N 1E6F0:- 1E6F5:N 1E6FE:-",
  "1E700:N 1E7E0:- 1E7E7:N 1E7E8:- 1E7EC:N 1E7ED:- 1E7EF:N 1E7F0:- 1E7FF:N 1E800:- 1E8C5:N",
  "1E8C7:- 1E8D0:N 1E900:- 1E944:N 1E94B:- 1E94C:N 1E950:- 1E95A:N 1E95E:- 1E960:N 1EC71:-",
  "1ECB5:N 1ED01:- 1ED3E:N 1EE00:- 1EE04:N 1EE05:- 1EE20:N 1EE21:- 1EE23:N 1EE24:- 1EE25:N",
  "1EE27:- 1EE28:N 1EE29:- 1EE33:N 1EE34:- 1EE38:N 1EE39:- 1EE3A:N 1EE3B:- 1EE3C:N 1EE42:-",
  "1EE43:N 1EE47:- 1EE48:N 1EE49:- 1EE4A:N 1EE4B:- 1EE4C:N 1EE4D:- 1EE50:N 1EE51:- 1EE53:N",
  "1EE54:- 1EE55:N 1EE57:- 1EE58:N 1EE59:- 1EE5A:N 1EE5B:- 1EE5C:N 1EE5D:- 1EE5E:N 1EE5F:-",
  "1EE60:N 1EE61:- 1EE63:N 1EE64:- 1EE65:N 1EE67:- 1EE6B:N 1EE6C:- 1EE73:N 1EE74:- 1EE78:N",
  "1EE79:- 1EE7D:N 1EE7E:- 1EE7F:N 1EE80:- 1EE8A:N 1EE8B:- 1EE9C:N 1EEA1:- 1EEA4:N 1EEA5:-",
  "1EEAA:N 1EEAB:- 1EEBC:N 1EEF0:- 1EEF2:N 1F000:- 1F02C:N 1F030:- 1F094:N 1F0A0:- 1F0AF:N",
  "1F0B1:- 1F0C0:N 1F0C1:- 1F0D0:N 1F0D1:- 1F0F6:N 1F100:- 1F1AE:N 1F1E6:- 1F203:N 1F210:-",
  "1F23C:N 1F240:- 1F249:N 1F250:- 1F252:N 1F260:- 1F266:N 1F300:- 1F6D9:N 1F6DC:- 1F6ED:N",
  "1F6F0:- 1F6FD:N 1F700:- 1F7DA:N 1F7E0:- 1F7EC:N 1F7F0:- 1F7F1:N 1F800:- 1F80C:N 1F810:-",
  "1F848:N 1F850:- 1F85A:N 1F860:- 1F888:N 1F890:- 1F8AE:N 1F8B0:- 1F8BC:N 1F8C0:- 1F8C2:N",
  "1F8D0:- 1F8D9:N 1F900:- 1FA58:N 1FA60:- 1FA6E:N 1FA70:- 1FA7D:N 1FA80:- 1FA8B:N 1FA8E:-",
  "1FAC7:N 1FAC8:- 1FAC9:N 1FACD:- 1FADD:N 1FADF:- 1FAEB:N 1FAEF:- 1FAF9:N 1FB00:- 1FB93:N",
  "1FB94:- 1FBFB:N 20000:- 2A6E0:N 2A700:- 2B81E:N 2B820:- 2CEAE:N 2CEB0:- 2EBE1:N 2EBF0:-",
  "2EE5E:N 2F800:- 2FA1E:N 30000:- 3134B:N 31350:- 3347A:N"]

def unseenTable : RangeTable Bool := .ofRows (· = ['N']) unseenRows

def isUnseen (c : Char) : Bool :=
  if c.toNat < 0x7F then c.toNat < 0x20 else (unseenTable.get? c.toNat).getD false

/-- A character inside quotes. -/
def quoteChar (c : Char) : List Char :=
  if c = '\x00' then ['\\', '0']
  else if c = '\t' then ['\\', 't']
  else if c = '\r' then ['\\', 'r']
  else if c = '\n' then ['\\', 'n']
  else if c = '\\' then ['\\', '\\']
  else if c = '"' then ['\\', '"']
  else if isUnseen c then ['\\', 'u', '\x7b'] ++ hexDigits c.toNat ++ ['\x7d']
  else [c]

/-- A text in quotes. -/
def quoted (cs : List Char) : List Char := '"' :: cs.flatMap quoteChar ++ ['"']

end FederatedPresence.Text
