import LogPipeline.Text.Numbers

/-!
# Composed text

The canonical composition of a text: every character is taken apart, marks on one character are
sorted by their class, and what can be put together again is put together. Syllables of Hangul
follow a rule; all other characters stand in tables.
-/

namespace LogPipeline.Text

/-- Characters and the one or two that each is made of. The third number marks those that are not
put together again. -/
def decompositionTable : String :=
  "c0:0041-0300 c1:0041-0301 c2:0041-0302 c3:0041-0303 c4:0041-0308 c5:0041-030a c7:0043-0327
   c8:0045-0300 c9:0045-0301 ca:0045-0302 cb:0045-0308 cc:0049-0300 cd:0049-0301 ce:0049-0302
   cf:0049-0308 d1:004e-0303 d2:004f-0300 d3:004f-0301 d4:004f-0302 d5:004f-0303 d6:004f-0308
   d9:0055-0300 da:0055-0301 db:0055-0302 dc:0055-0308 dd:0059-0301 e0:0061-0300 e1:0061-0301
   e2:0061-0302 e3:0061-0303 e4:0061-0308 e5:0061-030a e7:0063-0327 e8:0065-0300 e9:0065-0301
   ea:0065-0302 eb:0065-0308 ec:0069-0300 ed:0069-0301 ee:0069-0302 ef:0069-0308 f1:006e-0303
   f2:006f-0300 f3:006f-0301 f4:006f-0302 f5:006f-0303 f6:006f-0308 f9:0075-0300 fa:0075-0301
   fb:0075-0302 fc:0075-0308 fd:0079-0301 ff:0079-0308 100:0041-0304 101:0061-0304
   102:0041-0306 103:0061-0306 104:0041-0328 105:0061-0328 106:0043-0301 107:0063-0301
   108:0043-0302 109:0063-0302 10a:0043-0307 10b:0063-0307 10c:0043-030c 10d:0063-030c
   10e:0044-030c 10f:0064-030c 112:0045-0304 113:0065-0304 114:0045-0306 115:0065-0306
   116:0045-0307 117:0065-0307 118:0045-0328 119:0065-0328 11a:0045-030c 11b:0065-030c
   11c:0047-0302 11d:0067-0302 11e:0047-0306 11f:0067-0306 120:0047-0307 121:0067-0307
   122:0047-0327 123:0067-0327 124:0048-0302 125:0068-0302 128:0049-0303 129:0069-0303
   12a:0049-0304 12b:0069-0304 12c:0049-0306 12d:0069-0306 12e:0049-0328 12f:0069-0328
   130:0049-0307 134:004a-0302 135:006a-0302 136:004b-0327 137:006b-0327 139:004c-0301
   13a:006c-0301 13b:004c-0327 13c:006c-0327 13d:004c-030c 13e:006c-030c 143:004e-0301
   144:006e-0301 145:004e-0327 146:006e-0327 147:004e-030c 148:006e-030c 14c:004f-0304
   14d:006f-0304 14e:004f-0306 14f:006f-0306 150:004f-030b 151:006f-030b 154:0052-0301
   155:0072-0301 156:0052-0327 157:0072-0327 158:0052-030c 159:0072-030c 15a:0053-0301
   15b:0073-0301 15c:0053-0302 15d:0073-0302 15e:0053-0327 15f:0073-0327 160:0053-030c
   161:0073-030c 162:0054-0327 163:0074-0327 164:0054-030c 165:0074-030c 168:0055-0303
   169:0075-0303 16a:0055-0304 16b:0075-0304 16c:0055-0306 16d:0075-0306 16e:0055-030a
   16f:0075-030a 170:0055-030b 171:0075-030b 172:0055-0328 173:0075-0328 174:0057-0302
   175:0077-0302 176:0059-0302 177:0079-0302 178:0059-0308 179:005a-0301 17a:007a-0301
   17b:005a-0307 17c:007a-0307 17d:005a-030c 17e:007a-030c 1a0:004f-031b 1a1:006f-031b
   1af:0055-031b 1b0:0075-031b 1cd:0041-030c 1ce:0061-030c 1cf:0049-030c 1d0:0069-030c
   1d1:004f-030c 1d2:006f-030c 1d3:0055-030c 1d4:0075-030c 1d5:00dc-0304 1d6:00fc-0304
   1d7:00dc-0301 1d8:00fc-0301 1d9:00dc-030c 1da:00fc-030c 1db:00dc-0300 1dc:00fc-0300
   1de:00c4-0304 1df:00e4-0304 1e0:0226-0304 1e1:0227-0304 1e2:00c6-0304 1e3:00e6-0304
   1e6:0047-030c 1e7:0067-030c 1e8:004b-030c 1e9:006b-030c 1ea:004f-0328 1eb:006f-0328
   1ec:01ea-0304 1ed:01eb-0304 1ee:01b7-030c 1ef:0292-030c 1f0:006a-030c 1f4:0047-0301
   1f5:0067-0301 1f8:004e-0300 1f9:006e-0300 1fa:00c5-0301 1fb:00e5-0301 1fc:00c6-0301
   1fd:00e6-0301 1fe:00d8-0301 1ff:00f8-0301 200:0041-030f 201:0061-030f 202:0041-0311
   203:0061-0311 204:0045-030f 205:0065-030f 206:0045-0311 207:0065-0311 208:0049-030f
   209:0069-030f 20a:0049-0311 20b:0069-0311 20c:004f-030f 20d:006f-030f 20e:004f-0311
   20f:006f-0311 210:0052-030f 211:0072-030f 212:0052-0311 213:0072-0311 214:0055-030f
   215:0075-030f 216:0055-0311 217:0075-0311 218:0053-0326 219:0073-0326 21a:0054-0326
   21b:0074-0326 21e:0048-030c 21f:0068-030c 226:0041-0307 227:0061-0307 228:0045-0327
   229:0065-0327 22a:00d6-0304 22b:00f6-0304 22c:00d5-0304 22d:00f5-0304 22e:004f-0307
   22f:006f-0307 230:022e-0304 231:022f-0304 232:0059-0304 233:0079-0304 340:0300:0 341:0301:0
   343:0313:0 344:0308-0301:0 374:02b9:0 37e:003b:0 385:00a8-0301 386:0391-0301 387:00b7:0
   388:0395-0301 389:0397-0301 38a:0399-0301 38c:039f-0301 38e:03a5-0301 38f:03a9-0301
   390:03ca-0301 3aa:0399-0308 3ab:03a5-0308 3ac:03b1-0301 3ad:03b5-0301 3ae:03b7-0301
   3af:03b9-0301 3b0:03cb-0301 3ca:03b9-0308 3cb:03c5-0308 3cc:03bf-0301 3cd:03c5-0301
   3ce:03c9-0301 3d3:03d2-0301 3d4:03d2-0308 400:0415-0300 401:0415-0308 403:0413-0301
   407:0406-0308 40c:041a-0301 40d:0418-0300 40e:0423-0306 419:0418-0306 439:0438-0306
   450:0435-0300 451:0435-0308 453:0433-0301 457:0456-0308 45c:043a-0301 45d:0438-0300
   45e:0443-0306 476:0474-030f 477:0475-030f 4c1:0416-0306 4c2:0436-0306 4d0:0410-0306
   4d1:0430-0306 4d2:0410-0308 4d3:0430-0308 4d6:0415-0306 4d7:0435-0306 4da:04d8-0308
   4db:04d9-0308 4dc:0416-0308 4dd:0436-0308 4de:0417-0308 4df:0437-0308 4e2:0418-0304
   4e3:0438-0304 4e4:0418-0308 4e5:0438-0308 4e6:041e-0308 4e7:043e-0308 4ea:04e8-0308
   4eb:04e9-0308 4ec:042d-0308 4ed:044d-0308 4ee:0423-0304 4ef:0443-0304 4f0:0423-0308
   4f1:0443-0308 4f2:0423-030b 4f3:0443-030b 4f4:0427-0308 4f5:0447-0308 4f8:042b-0308
   4f9:044b-0308 622:0627-0653 623:0627-0654 624:0648-0654 625:0627-0655 626:064a-0654
   6c0:06d5-0654 6c2:06c1-0654 6d3:06d2-0654 929:0928-093c 931:0930-093c 934:0933-093c
   958:0915-093c:0 959:0916-093c:0 95a:0917-093c:0 95b:091c-093c:0 95c:0921-093c:0
   95d:0922-093c:0 95e:092b-093c:0 95f:092f-093c:0 9cb:09c7-09be 9cc:09c7-09d7 9dc:09a1-09bc:0
   9dd:09a2-09bc:0 9df:09af-09bc:0 a33:0a32-0a3c:0 a36:0a38-0a3c:0 a59:0a16-0a3c:0
   a5a:0a17-0a3c:0 a5b:0a1c-0a3c:0 a5e:0a2b-0a3c:0 b48:0b47-0b56 b4b:0b47-0b3e b4c:0b47-0b57
   b5c:0b21-0b3c:0 b5d:0b22-0b3c:0 b94:0b92-0bd7 bca:0bc6-0bbe bcb:0bc7-0bbe bcc:0bc6-0bd7
   c48:0c46-0c56 cc0:0cbf-0cd5 cc7:0cc6-0cd5 cc8:0cc6-0cd6 cca:0cc6-0cc2 ccb:0cca-0cd5
   d4a:0d46-0d3e d4b:0d47-0d3e d4c:0d46-0d57 dda:0dd9-0dca ddc:0dd9-0dcf ddd:0ddc-0dca
   dde:0dd9-0ddf f43:0f42-0fb7:0 f4d:0f4c-0fb7:0 f52:0f51-0fb7:0 f57:0f56-0fb7:0
   f5c:0f5b-0fb7:0 f69:0f40-0fb5:0 f73:0f71-0f72:0 f75:0f71-0f74:0 f76:0fb2-0f80:0
   f78:0fb3-0f80:0 f81:0f71-0f80:0 f93:0f92-0fb7:0 f9d:0f9c-0fb7:0 fa2:0fa1-0fb7:0
   fa7:0fa6-0fb7:0 fac:0fab-0fb7:0 fb9:0f90-0fb5:0 1026:1025-102e 1b06:1b05-1b35 1b08:1b07-1b35
   1b0a:1b09-1b35 1b0c:1b0b-1b35 1b0e:1b0d-1b35 1b12:1b11-1b35 1b3b:1b3a-1b35 1b3d:1b3c-1b35
   1b40:1b3e-1b35 1b41:1b3f-1b35 1b43:1b42-1b35 1e00:0041-0325 1e01:0061-0325 1e02:0042-0307
   1e03:0062-0307 1e04:0042-0323 1e05:0062-0323 1e06:0042-0331 1e07:0062-0331 1e08:00c7-0301
   1e09:00e7-0301 1e0a:0044-0307 1e0b:0064-0307 1e0c:0044-0323 1e0d:0064-0323 1e0e:0044-0331
   1e0f:0064-0331 1e10:0044-0327 1e11:0064-0327 1e12:0044-032d 1e13:0064-032d 1e14:0112-0300
   1e15:0113-0300 1e16:0112-0301 1e17:0113-0301 1e18:0045-032d 1e19:0065-032d 1e1a:0045-0330
   1e1b:0065-0330 1e1c:0228-0306 1e1d:0229-0306 1e1e:0046-0307 1e1f:0066-0307 1e20:0047-0304
   1e21:0067-0304 1e22:0048-0307 1e23:0068-0307 1e24:0048-0323 1e25:0068-0323 1e26:0048-0308
   1e27:0068-0308 1e28:0048-0327 1e29:0068-0327 1e2a:0048-032e 1e2b:0068-032e 1e2c:0049-0330
   1e2d:0069-0330 1e2e:00cf-0301 1e2f:00ef-0301 1e30:004b-0301 1e31:006b-0301 1e32:004b-0323
   1e33:006b-0323 1e34:004b-0331 1e35:006b-0331 1e36:004c-0323 1e37:006c-0323 1e38:1e36-0304
   1e39:1e37-0304 1e3a:004c-0331 1e3b:006c-0331 1e3c:004c-032d 1e3d:006c-032d 1e3e:004d-0301
   1e3f:006d-0301 1e40:004d-0307 1e41:006d-0307 1e42:004d-0323 1e43:006d-0323 1e44:004e-0307
   1e45:006e-0307 1e46:004e-0323 1e47:006e-0323 1e48:004e-0331 1e49:006e-0331 1e4a:004e-032d
   1e4b:006e-032d 1e4c:00d5-0301 1e4d:00f5-0301 1e4e:00d5-0308 1e4f:00f5-0308 1e50:014c-0300
   1e51:014d-0300 1e52:014c-0301 1e53:014d-0301 1e54:0050-0301 1e55:0070-0301 1e56:0050-0307
   1e57:0070-0307 1e58:0052-0307 1e59:0072-0307 1e5a:0052-0323 1e5b:0072-0323 1e5c:1e5a-0304
   1e5d:1e5b-0304 1e5e:0052-0331 1e5f:0072-0331 1e60:0053-0307 1e61:0073-0307 1e62:0053-0323
   1e63:0073-0323 1e64:015a-0307 1e65:015b-0307 1e66:0160-0307 1e67:0161-0307 1e68:1e62-0307
   1e69:1e63-0307 1e6a:0054-0307 1e6b:0074-0307 1e6c:0054-0323 1e6d:0074-0323 1e6e:0054-0331
   1e6f:0074-0331 1e70:0054-032d 1e71:0074-032d 1e72:0055-0324 1e73:0075-0324 1e74:0055-0330
   1e75:0075-0330 1e76:0055-032d 1e77:0075-032d 1e78:0168-0301 1e79:0169-0301 1e7a:016a-0308
   1e7b:016b-0308 1e7c:0056-0303 1e7d:0076-0303 1e7e:0056-0323 1e7f:0076-0323 1e80:0057-0300
   1e81:0077-0300 1e82:0057-0301 1e83:0077-0301 1e84:0057-0308 1e85:0077-0308 1e86:0057-0307
   1e87:0077-0307 1e88:0057-0323 1e89:0077-0323 1e8a:0058-0307 1e8b:0078-0307 1e8c:0058-0308
   1e8d:0078-0308 1e8e:0059-0307 1e8f:0079-0307 1e90:005a-0302 1e91:007a-0302 1e92:005a-0323
   1e93:007a-0323 1e94:005a-0331 1e95:007a-0331 1e96:0068-0331 1e97:0074-0308 1e98:0077-030a
   1e99:0079-030a 1e9b:017f-0307 1ea0:0041-0323 1ea1:0061-0323 1ea2:0041-0309 1ea3:0061-0309
   1ea4:00c2-0301 1ea5:00e2-0301 1ea6:00c2-0300 1ea7:00e2-0300 1ea8:00c2-0309 1ea9:00e2-0309
   1eaa:00c2-0303 1eab:00e2-0303 1eac:1ea0-0302 1ead:1ea1-0302 1eae:0102-0301 1eaf:0103-0301
   1eb0:0102-0300 1eb1:0103-0300 1eb2:0102-0309 1eb3:0103-0309 1eb4:0102-0303 1eb5:0103-0303
   1eb6:1ea0-0306 1eb7:1ea1-0306 1eb8:0045-0323 1eb9:0065-0323 1eba:0045-0309 1ebb:0065-0309
   1ebc:0045-0303 1ebd:0065-0303 1ebe:00ca-0301 1ebf:00ea-0301 1ec0:00ca-0300 1ec1:00ea-0300
   1ec2:00ca-0309 1ec3:00ea-0309 1ec4:00ca-0303 1ec5:00ea-0303 1ec6:1eb8-0302 1ec7:1eb9-0302
   1ec8:0049-0309 1ec9:0069-0309 1eca:0049-0323 1ecb:0069-0323 1ecc:004f-0323 1ecd:006f-0323
   1ece:004f-0309 1ecf:006f-0309 1ed0:00d4-0301 1ed1:00f4-0301 1ed2:00d4-0300 1ed3:00f4-0300
   1ed4:00d4-0309 1ed5:00f4-0309 1ed6:00d4-0303 1ed7:00f4-0303 1ed8:1ecc-0302 1ed9:1ecd-0302
   1eda:01a0-0301 1edb:01a1-0301 1edc:01a0-0300 1edd:01a1-0300 1ede:01a0-0309 1edf:01a1-0309
   1ee0:01a0-0303 1ee1:01a1-0303 1ee2:01a0-0323 1ee3:01a1-0323 1ee4:0055-0323 1ee5:0075-0323
   1ee6:0055-0309 1ee7:0075-0309 1ee8:01af-0301 1ee9:01b0-0301 1eea:01af-0300 1eeb:01b0-0300
   1eec:01af-0309 1eed:01b0-0309 1eee:01af-0303 1eef:01b0-0303 1ef0:01af-0323 1ef1:01b0-0323
   1ef2:0059-0300 1ef3:0079-0300 1ef4:0059-0323 1ef5:0079-0323 1ef6:0059-0309 1ef7:0079-0309
   1ef8:0059-0303 1ef9:0079-0303 1f00:03b1-0313 1f01:03b1-0314 1f02:1f00-0300 1f03:1f01-0300
   1f04:1f00-0301 1f05:1f01-0301 1f06:1f00-0342 1f07:1f01-0342 1f08:0391-0313 1f09:0391-0314
   1f0a:1f08-0300 1f0b:1f09-0300 1f0c:1f08-0301 1f0d:1f09-0301 1f0e:1f08-0342 1f0f:1f09-0342
   1f10:03b5-0313 1f11:03b5-0314 1f12:1f10-0300 1f13:1f11-0300 1f14:1f10-0301 1f15:1f11-0301
   1f18:0395-0313 1f19:0395-0314 1f1a:1f18-0300 1f1b:1f19-0300 1f1c:1f18-0301 1f1d:1f19-0301
   1f20:03b7-0313 1f21:03b7-0314 1f22:1f20-0300 1f23:1f21-0300 1f24:1f20-0301 1f25:1f21-0301
   1f26:1f20-0342 1f27:1f21-0342 1f28:0397-0313 1f29:0397-0314 1f2a:1f28-0300 1f2b:1f29-0300
   1f2c:1f28-0301 1f2d:1f29-0301 1f2e:1f28-0342 1f2f:1f29-0342 1f30:03b9-0313 1f31:03b9-0314
   1f32:1f30-0300 1f33:1f31-0300 1f34:1f30-0301 1f35:1f31-0301 1f36:1f30-0342 1f37:1f31-0342
   1f38:0399-0313 1f39:0399-0314 1f3a:1f38-0300 1f3b:1f39-0300 1f3c:1f38-0301 1f3d:1f39-0301
   1f3e:1f38-0342 1f3f:1f39-0342 1f40:03bf-0313 1f41:03bf-0314 1f42:1f40-0300 1f43:1f41-0300
   1f44:1f40-0301 1f45:1f41-0301 1f48:039f-0313 1f49:039f-0314 1f4a:1f48-0300 1f4b:1f49-0300
   1f4c:1f48-0301 1f4d:1f49-0301 1f50:03c5-0313 1f51:03c5-0314 1f52:1f50-0300 1f53:1f51-0300
   1f54:1f50-0301 1f55:1f51-0301 1f56:1f50-0342 1f57:1f51-0342 1f59:03a5-0314 1f5b:1f59-0300
   1f5d:1f59-0301 1f5f:1f59-0342 1f60:03c9-0313 1f61:03c9-0314 1f62:1f60-0300 1f63:1f61-0300
   1f64:1f60-0301 1f65:1f61-0301 1f66:1f60-0342 1f67:1f61-0342 1f68:03a9-0313 1f69:03a9-0314
   1f6a:1f68-0300 1f6b:1f69-0300 1f6c:1f68-0301 1f6d:1f69-0301 1f6e:1f68-0342 1f6f:1f69-0342
   1f70:03b1-0300 1f71:03ac:0 1f72:03b5-0300 1f73:03ad:0 1f74:03b7-0300 1f75:03ae:0
   1f76:03b9-0300 1f77:03af:0 1f78:03bf-0300 1f79:03cc:0 1f7a:03c5-0300 1f7b:03cd:0
   1f7c:03c9-0300 1f7d:03ce:0 1f80:1f00-0345 1f81:1f01-0345 1f82:1f02-0345 1f83:1f03-0345
   1f84:1f04-0345 1f85:1f05-0345 1f86:1f06-0345 1f87:1f07-0345 1f88:1f08-0345 1f89:1f09-0345
   1f8a:1f0a-0345 1f8b:1f0b-0345 1f8c:1f0c-0345 1f8d:1f0d-0345 1f8e:1f0e-0345 1f8f:1f0f-0345
   1f90:1f20-0345 1f91:1f21-0345 1f92:1f22-0345 1f93:1f23-0345 1f94:1f24-0345 1f95:1f25-0345
   1f96:1f26-0345 1f97:1f27-0345 1f98:1f28-0345 1f99:1f29-0345 1f9a:1f2a-0345 1f9b:1f2b-0345
   1f9c:1f2c-0345 1f9d:1f2d-0345 1f9e:1f2e-0345 1f9f:1f2f-0345 1fa0:1f60-0345 1fa1:1f61-0345
   1fa2:1f62-0345 1fa3:1f63-0345 1fa4:1f64-0345 1fa5:1f65-0345 1fa6:1f66-0345 1fa7:1f67-0345
   1fa8:1f68-0345 1fa9:1f69-0345 1faa:1f6a-0345 1fab:1f6b-0345 1fac:1f6c-0345 1fad:1f6d-0345
   1fae:1f6e-0345 1faf:1f6f-0345 1fb0:03b1-0306 1fb1:03b1-0304 1fb2:1f70-0345 1fb3:03b1-0345
   1fb4:03ac-0345 1fb6:03b1-0342 1fb7:1fb6-0345 1fb8:0391-0306 1fb9:0391-0304 1fba:0391-0300
   1fbb:0386:0 1fbc:0391-0345 1fbe:03b9:0 1fc1:00a8-0342 1fc2:1f74-0345 1fc3:03b7-0345
   1fc4:03ae-0345 1fc6:03b7-0342 1fc7:1fc6-0345 1fc8:0395-0300 1fc9:0388:0 1fca:0397-0300
   1fcb:0389:0 1fcc:0397-0345 1fcd:1fbf-0300 1fce:1fbf-0301 1fcf:1fbf-0342 1fd0:03b9-0306
   1fd1:03b9-0304 1fd2:03ca-0300 1fd3:0390:0 1fd6:03b9-0342 1fd7:03ca-0342 1fd8:0399-0306
   1fd9:0399-0304 1fda:0399-0300 1fdb:038a:0 1fdd:1ffe-0300 1fde:1ffe-0301 1fdf:1ffe-0342
   1fe0:03c5-0306 1fe1:03c5-0304 1fe2:03cb-0300 1fe3:03b0:0 1fe4:03c1-0313 1fe5:03c1-0314
   1fe6:03c5-0342 1fe7:03cb-0342 1fe8:03a5-0306 1fe9:03a5-0304 1fea:03a5-0300 1feb:038e:0
   1fec:03a1-0314 1fed:00a8-0300 1fee:0385:0 1fef:0060:0 1ff2:1f7c-0345 1ff3:03c9-0345
   1ff4:03ce-0345 1ff6:03c9-0342 1ff7:1ff6-0345 1ff8:039f-0300 1ff9:038c:0 1ffa:03a9-0300
   1ffb:038f:0 1ffc:03a9-0345 1ffd:00b4:0 2000:2002:0 2001:2003:0 2126:03a9:0 212a:004b:0
   212b:00c5:0 219a:2190-0338 219b:2192-0338 21ae:2194-0338 21cd:21d0-0338 21ce:21d4-0338
   21cf:21d2-0338 2204:2203-0338 2209:2208-0338 220c:220b-0338 2224:2223-0338 2226:2225-0338
   2241:223c-0338 2244:2243-0338 2247:2245-0338 2249:2248-0338 2260:003d-0338 2262:2261-0338
   226d:224d-0338 226e:003c-0338 226f:003e-0338 2270:2264-0338 2271:2265-0338 2274:2272-0338
   2275:2273-0338 2278:2276-0338 2279:2277-0338 2280:227a-0338 2281:227b-0338 2284:2282-0338
   2285:2283-0338 2288:2286-0338 2289:2287-0338 22ac:22a2-0338 22ad:22a8-0338 22ae:22a9-0338
   22af:22ab-0338 22e0:227c-0338 22e1:227d-0338 22e2:2291-0338 22e3:2292-0338 22ea:22b2-0338
   22eb:22b3-0338 22ec:22b4-0338 22ed:22b5-0338 2329:3008:0 232a:3009:0 2adc:2add-0338:0
   304c:304b-3099 304e:304d-3099 3050:304f-3099 3052:3051-3099 3054:3053-3099 3056:3055-3099
   3058:3057-3099 305a:3059-3099 305c:305b-3099 305e:305d-3099 3060:305f-3099 3062:3061-3099
   3065:3064-3099 3067:3066-3099 3069:3068-3099 3070:306f-3099 3071:306f-309a 3073:3072-3099
   3074:3072-309a 3076:3075-3099 3077:3075-309a 3079:3078-3099 307a:3078-309a 307c:307b-3099
   307d:307b-309a 3094:3046-3099 309e:309d-3099 30ac:30ab-3099 30ae:30ad-3099 30b0:30af-3099
   30b2:30b1-3099 30b4:30b3-3099 30b6:30b5-3099 30b8:30b7-3099 30ba:30b9-3099 30bc:30bb-3099
   30be:30bd-3099 30c0:30bf-3099 30c2:30c1-3099 30c5:30c4-3099 30c7:30c6-3099 30c9:30c8-3099
   30d0:30cf-3099 30d1:30cf-309a 30d3:30d2-3099 30d4:30d2-309a 30d6:30d5-3099 30d7:30d5-309a
   30d9:30d8-3099 30da:30d8-309a 30dc:30db-3099 30dd:30db-309a 30f4:30a6-3099 30f7:30ef-3099
   30f8:30f0-3099 30f9:30f1-3099 30fa:30f2-3099 30fe:30fd-3099 f900:8c48:0 f901:66f4:0
   f902:8eca:0 f903:8cc8:0 f904:6ed1:0 f905:4e32:0 f906:53e5:0 f907:9f9c:0 f908:9f9c:0
   f909:5951:0 f90a:91d1:0 f90b:5587:0 f90c:5948:0 f90d:61f6:0 f90e:7669:0 f90f:7f85:0
   f910:863f:0 f911:87ba:0 f912:88f8:0 f913:908f:0 f914:6a02:0 f915:6d1b:0 f916:70d9:0
   f917:73de:0 f918:843d:0 f919:916a:0 f91a:99f1:0 f91b:4e82:0 f91c:5375:0 f91d:6b04:0
   f91e:721b:0 f91f:862d:0 f920:9e1e:0 f921:5d50:0 f922:6feb:0 f923:85cd:0 f924:8964:0
   f925:62c9:0 f926:81d8:0 f927:881f:0 f928:5eca:0 f929:6717:0 f92a:6d6a:0 f92b:72fc:0
   f92c:90ce:0 f92d:4f86:0 f92e:51b7:0 f92f:52de:0 f930:64c4:0 f931:6ad3:0 f932:7210:0
   f933:76e7:0 f934:8001:0 f935:8606:0 f936:865c:0 f937:8def:0 f938:9732:0 f939:9b6f:0
   f93a:9dfa:0 f93b:788c:0 f93c:797f:0 f93d:7da0:0 f93e:83c9:0 f93f:9304:0 f940:9e7f:0
   f941:8ad6:0 f942:58df:0 f943:5f04:0 f944:7c60:0 f945:807e:0 f946:7262:0 f947:78ca:0
   f948:8cc2:0 f949:96f7:0 f94a:58d8:0 f94b:5c62:0 f94c:6a13:0 f94d:6dda:0 f94e:6f0f:0
   f94f:7d2f:0 f950:7e37:0 f951:964b:0 f952:52d2:0 f953:808b:0 f954:51dc:0 f955:51cc:0
   f956:7a1c:0 f957:7dbe:0 f958:83f1:0 f959:9675:0 f95a:8b80:0 f95b:62cf:0 f95c:6a02:0
   f95d:8afe:0 f95e:4e39:0 f95f:5be7:0 f960:6012:0 f961:7387:0 f962:7570:0 f963:5317:0
   f964:78fb:0 f965:4fbf:0 f966:5fa9:0 f967:4e0d:0 f968:6ccc:0 f969:6578:0 f96a:7d22:0
   f96b:53c3:0 f96c:585e:0 f96d:7701:0 f96e:8449:0 f96f:8aaa:0 f970:6bba:0 f971:8fb0:0
   f972:6c88:0 f973:62fe:0 f974:82e5:0 f975:63a0:0 f976:7565:0 f977:4eae:0 f978:5169:0
   f979:51c9:0 f97a:6881:0 f97b:7ce7:0 f97c:826f:0 f97d:8ad2:0 f97e:91cf:0 f97f:52f5:0
   f980:5442:0 f981:5973:0 f982:5eec:0 f983:65c5:0 f984:6ffe:0 f985:792a:0 f986:95ad:0
   f987:9a6a:0 f988:9e97:0 f989:9ece:0 f98a:529b:0 f98b:66c6:0 f98c:6b77:0 f98d:8f62:0
   f98e:5e74:0 f98f:6190:0 f990:6200:0 f991:649a:0 f992:6f23:0 f993:7149:0 f994:7489:0
   f995:79ca:0 f996:7df4:0 f997:806f:0 f998:8f26:0 f999:84ee:0 f99a:9023:0 f99b:934a:0
   f99c:5217:0 f99d:52a3:0 f99e:54bd:0 f99f:70c8:0 f9a0:88c2:0 f9a1:8aaa:0 f9a2:5ec9:0
   f9a3:5ff5:0 f9a4:637b:0 f9a5:6bae:0 f9a6:7c3e:0 f9a7:7375:0 f9a8:4ee4:0 f9a9:56f9:0
   f9aa:5be7:0 f9ab:5dba:0 f9ac:601c:0 f9ad:73b2:0 f9ae:7469:0 f9af:7f9a:0 f9b0:8046:0
   f9b1:9234:0 f9b2:96f6:0 f9b3:9748:0 f9b4:9818:0 f9b5:4f8b:0 f9b6:79ae:0 f9b7:91b4:0
   f9b8:96b8:0 f9b9:60e1:0 f9ba:4e86:0 f9bb:50da:0 f9bc:5bee:0 f9bd:5c3f:0 f9be:6599:0
   f9bf:6a02:0 f9c0:71ce:0 f9c1:7642:0 f9c2:84fc:0 f9c3:907c:0 f9c4:9f8d:0 f9c5:6688:0
   f9c6:962e:0 f9c7:5289:0 f9c8:677b:0 f9c9:67f3:0 f9ca:6d41:0 f9cb:6e9c:0 f9cc:7409:0
   f9cd:7559:0 f9ce:786b:0 f9cf:7d10:0 f9d0:985e:0 f9d1:516d:0 f9d2:622e:0 f9d3:9678:0
   f9d4:502b:0 f9d5:5d19:0 f9d6:6dea:0 f9d7:8f2a:0 f9d8:5f8b:0 f9d9:6144:0 f9da:6817:0
   f9db:7387:0 f9dc:9686:0 f9dd:5229:0 f9de:540f:0 f9df:5c65:0 f9e0:6613:0 f9e1:674e:0
   f9e2:68a8:0 f9e3:6ce5:0 f9e4:7406:0 f9e5:75e2:0 f9e6:7f79:0 f9e7:88cf:0 f9e8:88e1:0
   f9e9:91cc:0 f9ea:96e2:0 f9eb:533f:0 f9ec:6eba:0 f9ed:541d:0 f9ee:71d0:0 f9ef:7498:0
   f9f0:85fa:0 f9f1:96a3:0 f9f2:9c57:0 f9f3:9e9f:0 f9f4:6797:0 f9f5:6dcb:0 f9f6:81e8:0
   f9f7:7acb:0 f9f8:7b20:0 f9f9:7c92:0 f9fa:72c0:0 f9fb:7099:0 f9fc:8b58:0 f9fd:4ec0:0
   f9fe:8336:0 f9ff:523a:0 fa00:5207:0 fa01:5ea6:0 fa02:62d3:0 fa03:7cd6:0 fa04:5b85:0
   fa05:6d1e:0 fa06:66b4:0 fa07:8f3b:0 fa08:884c:0 fa09:964d:0 fa0a:898b:0 fa0b:5ed3:0
   fa0c:5140:0 fa0d:55c0:0 fa10:585a:0 fa12:6674:0 fa15:51de:0 fa16:732a:0 fa17:76ca:0
   fa18:793c:0 fa19:795e:0 fa1a:7965:0 fa1b:798f:0 fa1c:9756:0 fa1d:7cbe:0 fa1e:7fbd:0
   fa20:8612:0 fa22:8af8:0 fa25:9038:0 fa26:90fd:0 fa2a:98ef:0 fa2b:98fc:0 fa2c:9928:0
   fa2d:9db4:0 fa2e:90de:0 fa2f:96b7:0 fa30:4fae:0 fa31:50e7:0 fa32:514d:0 fa33:52c9:0
   fa34:52e4:0 fa35:5351:0 fa36:559d:0 fa37:5606:0 fa38:5668:0 fa39:5840:0 fa3a:58a8:0
   fa3b:5c64:0 fa3c:5c6e:0 fa3d:6094:0 fa3e:6168:0 fa3f:618e:0 fa40:61f2:0 fa41:654f:0
   fa42:65e2:0 fa43:6691:0 fa44:6885:0 fa45:6d77:0 fa46:6e1a:0 fa47:6f22:0 fa48:716e:0
   fa49:722b:0 fa4a:7422:0 fa4b:7891:0 fa4c:793e:0 fa4d:7949:0 fa4e:7948:0 fa4f:7950:0
   fa50:7956:0 fa51:795d:0 fa52:798d:0 fa53:798e:0 fa54:7a40:0 fa55:7a81:0 fa56:7bc0:0
   fa57:7df4:0 fa58:7e09:0 fa59:7e41:0 fa5a:7f72:0 fa5b:8005:0 fa5c:81ed:0 fa5d:8279:0
   fa5e:8279:0 fa5f:8457:0 fa60:8910:0 fa61:8996:0 fa62:8b01:0 fa63:8b39:0 fa64:8cd3:0
   fa65:8d08:0 fa66:8fb6:0 fa67:9038:0 fa68:96e3:0 fa69:97ff:0 fa6a:983b:0 fa6b:6075:0
   fa6c:242ee:0 fa6d:8218:0 fa70:4e26:0 fa71:51b5:0 fa72:5168:0 fa73:4f80:0 fa74:5145:0
   fa75:5180:0 fa76:52c7:0 fa77:52fa:0 fa78:559d:0 fa79:5555:0 fa7a:5599:0 fa7b:55e2:0
   fa7c:585a:0 fa7d:58b3:0 fa7e:5944:0 fa7f:5954:0 fa80:5a62:0 fa81:5b28:0 fa82:5ed2:0
   fa83:5ed9:0 fa84:5f69:0 fa85:5fad:0 fa86:60d8:0 fa87:614e:0 fa88:6108:0 fa89:618e:0
   fa8a:6160:0 fa8b:61f2:0 fa8c:6234:0 fa8d:63c4:0 fa8e:641c:0 fa8f:6452:0 fa90:6556:0
   fa91:6674:0 fa92:6717:0 fa93:671b:0 fa94:6756:0 fa95:6b79:0 fa96:6bba:0 fa97:6d41:0
   fa98:6edb:0 fa99:6ecb:0 fa9a:6f22:0 fa9b:701e:0 fa9c:716e:0 fa9d:77a7:0 fa9e:7235:0
   fa9f:72af:0 faa0:732a:0 faa1:7471:0 faa2:7506:0 faa3:753b:0 faa4:761d:0 faa5:761f:0
   faa6:76ca:0 faa7:76db:0 faa8:76f4:0 faa9:774a:0 faaa:7740:0 faab:78cc:0 faac:7ab1:0
   faad:7bc0:0 faae:7c7b:0 faaf:7d5b:0 fab0:7df4:0 fab1:7f3e:0 fab2:8005:0 fab3:8352:0
   fab4:83ef:0 fab5:8779:0 fab6:8941:0 fab7:8986:0 fab8:8996:0 fab9:8abf:0 faba:8af8:0
   fabb:8acb:0 fabc:8b01:0 fabd:8afe:0 fabe:8aed:0 fabf:8b39:0 fac0:8b8a:0 fac1:8d08:0
   fac2:8f38:0 fac3:9072:0 fac4:9199:0 fac5:9276:0 fac6:967c:0 fac7:96e3:0 fac8:9756:0
   fac9:97db:0 faca:97ff:0 facb:980b:0 facc:983b:0 facd:9b12:0 face:9f9c:0 facf:2284a:0
   fad0:22844:0 fad1:233d5:0 fad2:3b9d:0 fad3:4018:0 fad4:4039:0 fad5:25249:0 fad6:25cd0:0
   fad7:27ed3:0 fad8:9f43:0 fad9:9f8e:0 fb1d:05d9-05b4:0 fb1f:05f2-05b7:0 fb2a:05e9-05c1:0
   fb2b:05e9-05c2:0 fb2c:fb49-05c1:0 fb2d:fb49-05c2:0 fb2e:05d0-05b7:0 fb2f:05d0-05b8:0
   fb30:05d0-05bc:0 fb31:05d1-05bc:0 fb32:05d2-05bc:0 fb33:05d3-05bc:0 fb34:05d4-05bc:0
   fb35:05d5-05bc:0 fb36:05d6-05bc:0 fb38:05d8-05bc:0 fb39:05d9-05bc:0 fb3a:05da-05bc:0
   fb3b:05db-05bc:0 fb3c:05dc-05bc:0 fb3e:05de-05bc:0 fb40:05e0-05bc:0 fb41:05e1-05bc:0
   fb43:05e3-05bc:0 fb44:05e4-05bc:0 fb46:05e6-05bc:0 fb47:05e7-05bc:0 fb48:05e8-05bc:0
   fb49:05e9-05bc:0 fb4a:05ea-05bc:0 fb4b:05d5-05b9:0 fb4c:05d1-05bf:0 fb4d:05db-05bf:0
   fb4e:05e4-05bf:0 105c9:105d2-0307 105e4:105da-0307 1109a:11099-110ba 1109c:1109b-110ba
   110ab:110a5-110ba 1112e:11131-11127 1112f:11132-11127 1134b:11347-1133e 1134c:11347-11357
   11383:11382-113c9 11385:11384-113bb 1138e:1138b-113c2 11391:11390-113c9 113c5:113c2-113c2
   113c7:113c2-113b8 113c8:113c2-113c9 114bb:114b9-114ba 114bc:114b9-114b0 114be:114b9-114bd
   115ba:115b8-115af 115bb:115b9-115af 11938:11935-11930 16121:1611e-1611e 16122:1611e-16129
   16123:1611e-1611f 16124:16129-1611f 16125:1611e-16120 16126:16121-1611f 16127:16122-1611f
   16128:16121-16120 16d68:16d67-16d67 16d69:16d63-16d67 16d6a:16d69-16d67 1d15e:1d157-1d165:0
   1d15f:1d158-1d165:0 1d160:1d15f-1d16e:0 1d161:1d15f-1d16f:0 1d162:1d15f-1d170:0
   1d163:1d15f-1d171:0 1d164:1d15f-1d172:0 1d1bb:1d1b9-1d165:0 1d1bc:1d1ba-1d165:0
   1d1bd:1d1bb-1d16e:0 1d1be:1d1bc-1d16e:0 1d1bf:1d1bb-1d16f:0 1d1c0:1d1bc-1d16f:0 2f800:4e3d:0
   2f801:4e38:0 2f802:4e41:0 2f803:20122:0 2f804:4f60:0 2f805:4fae:0 2f806:4fbb:0 2f807:5002:0
   2f808:507a:0 2f809:5099:0 2f80a:50e7:0 2f80b:50cf:0 2f80c:349e:0 2f80d:2063a:0 2f80e:514d:0
   2f80f:5154:0 2f810:5164:0 2f811:5177:0 2f812:2051c:0 2f813:34b9:0 2f814:5167:0 2f815:518d:0
   2f816:2054b:0 2f817:5197:0 2f818:51a4:0 2f819:4ecc:0 2f81a:51ac:0 2f81b:51b5:0 2f81c:291df:0
   2f81d:51f5:0 2f81e:5203:0 2f81f:34df:0 2f820:523b:0 2f821:5246:0 2f822:5272:0 2f823:5277:0
   2f824:3515:0 2f825:52c7:0 2f826:52c9:0 2f827:52e4:0 2f828:52fa:0 2f829:5305:0 2f82a:5306:0
   2f82b:5317:0 2f82c:5349:0 2f82d:5351:0 2f82e:535a:0 2f82f:5373:0 2f830:537d:0 2f831:537f:0
   2f832:537f:0 2f833:537f:0 2f834:20a2c:0 2f835:7070:0 2f836:53ca:0 2f837:53df:0 2f838:20b63:0
   2f839:53eb:0 2f83a:53f1:0 2f83b:5406:0 2f83c:549e:0 2f83d:5438:0 2f83e:5448:0 2f83f:5468:0
   2f840:54a2:0 2f841:54f6:0 2f842:5510:0 2f843:5553:0 2f844:5563:0 2f845:5584:0 2f846:5584:0
   2f847:5599:0 2f848:55ab:0 2f849:55b3:0 2f84a:55c2:0 2f84b:5716:0 2f84c:5606:0 2f84d:5717:0
   2f84e:5651:0 2f84f:5674:0 2f850:5207:0 2f851:58ee:0 2f852:57ce:0 2f853:57f4:0 2f854:580d:0
   2f855:578b:0 2f856:5832:0 2f857:5831:0 2f858:58ac:0 2f859:214e4:0 2f85a:58f2:0 2f85b:58f7:0
   2f85c:5906:0 2f85d:591a:0 2f85e:5922:0 2f85f:5962:0 2f860:216a8:0 2f861:216ea:0 2f862:59ec:0
   2f863:5a1b:0 2f864:5a27:0 2f865:59d8:0 2f866:5a66:0 2f867:36ee:0 2f868:36fc:0 2f869:5b08:0
   2f86a:5b3e:0 2f86b:5b3e:0 2f86c:219c8:0 2f86d:5bc3:0 2f86e:5bd8:0 2f86f:5be7:0 2f870:5bf3:0
   2f871:21b18:0 2f872:5bff:0 2f873:5c06:0 2f874:5f53:0 2f875:5c22:0 2f876:3781:0 2f877:5c60:0
   2f878:5c6e:0 2f879:5cc0:0 2f87a:5c8d:0 2f87b:21de4:0 2f87c:5d43:0 2f87d:21de6:0 2f87e:5d6e:0
   2f87f:5d6b:0 2f880:5d7c:0 2f881:5de1:0 2f882:5de2:0 2f883:382f:0 2f884:5dfd:0 2f885:5e28:0
   2f886:5e3d:0 2f887:5e69:0 2f888:3862:0 2f889:22183:0 2f88a:387c:0 2f88b:5eb0:0 2f88c:5eb3:0
   2f88d:5eb6:0 2f88e:5eca:0 2f88f:2a392:0 2f890:5efe:0 2f891:22331:0 2f892:22331:0
   2f893:8201:0 2f894:5f22:0 2f895:5f22:0 2f896:38c7:0 2f897:232b8:0 2f898:261da:0 2f899:5f62:0
   2f89a:5f6b:0 2f89b:38e3:0 2f89c:5f9a:0 2f89d:5fcd:0 2f89e:5fd7:0 2f89f:5ff9:0 2f8a0:6081:0
   2f8a1:393a:0 2f8a2:391c:0 2f8a3:6094:0 2f8a4:226d4:0 2f8a5:60c7:0 2f8a6:6148:0 2f8a7:614c:0
   2f8a8:614e:0 2f8a9:614c:0 2f8aa:617a:0 2f8ab:618e:0 2f8ac:61b2:0 2f8ad:61a4:0 2f8ae:61af:0
   2f8af:61de:0 2f8b0:61f2:0 2f8b1:61f6:0 2f8b2:6210:0 2f8b3:621b:0 2f8b4:625d:0 2f8b5:62b1:0
   2f8b6:62d4:0 2f8b7:6350:0 2f8b8:22b0c:0 2f8b9:633d:0 2f8ba:62fc:0 2f8bb:6368:0 2f8bc:6383:0
   2f8bd:63e4:0 2f8be:22bf1:0 2f8bf:6422:0 2f8c0:63c5:0 2f8c1:63a9:0 2f8c2:3a2e:0 2f8c3:6469:0
   2f8c4:647e:0 2f8c5:649d:0 2f8c6:6477:0 2f8c7:3a6c:0 2f8c8:654f:0 2f8c9:656c:0 2f8ca:2300a:0
   2f8cb:65e3:0 2f8cc:66f8:0 2f8cd:6649:0 2f8ce:3b19:0 2f8cf:6691:0 2f8d0:3b08:0 2f8d1:3ae4:0
   2f8d2:5192:0 2f8d3:5195:0 2f8d4:6700:0 2f8d5:669c:0 2f8d6:80ad:0 2f8d7:43d9:0 2f8d8:6717:0
   2f8d9:671b:0 2f8da:6721:0 2f8db:675e:0 2f8dc:6753:0 2f8dd:233c3:0 2f8de:3b49:0 2f8df:67fa:0
   2f8e0:6785:0 2f8e1:6852:0 2f8e2:6885:0 2f8e3:2346d:0 2f8e4:688e:0 2f8e5:681f:0 2f8e6:6914:0
   2f8e7:3b9d:0 2f8e8:6942:0 2f8e9:69a3:0 2f8ea:69ea:0 2f8eb:6aa8:0 2f8ec:236a3:0 2f8ed:6adb:0
   2f8ee:3c18:0 2f8ef:6b21:0 2f8f0:238a7:0 2f8f1:6b54:0 2f8f2:3c4e:0 2f8f3:6b72:0 2f8f4:6b9f:0
   2f8f5:6bba:0 2f8f6:6bbb:0 2f8f7:23a8d:0 2f8f8:21d0b:0 2f8f9:23afa:0 2f8fa:6c4e:0
   2f8fb:23cbc:0 2f8fc:6cbf:0 2f8fd:6ccd:0 2f8fe:6c67:0 2f8ff:6d16:0 2f900:6d3e:0 2f901:6d77:0
   2f902:6d41:0 2f903:6d69:0 2f904:6d78:0 2f905:6d85:0 2f906:23d1e:0 2f907:6d34:0 2f908:6e2f:0
   2f909:6e6e:0 2f90a:3d33:0 2f90b:6ecb:0 2f90c:6ec7:0 2f90d:23ed1:0 2f90e:6df9:0 2f90f:6f6e:0
   2f910:23f5e:0 2f911:23f8e:0 2f912:6fc6:0 2f913:7039:0 2f914:701e:0 2f915:701b:0 2f916:3d96:0
   2f917:704a:0 2f918:707d:0 2f919:7077:0 2f91a:70ad:0 2f91b:20525:0 2f91c:7145:0 2f91d:24263:0
   2f91e:719c:0 2f91f:243ab:0 2f920:7228:0 2f921:7235:0 2f922:7250:0 2f923:24608:0 2f924:7280:0
   2f925:7295:0 2f926:24735:0 2f927:24814:0 2f928:737a:0 2f929:738b:0 2f92a:3eac:0 2f92b:73a5:0
   2f92c:3eb8:0 2f92d:3eb8:0 2f92e:7447:0 2f92f:745c:0 2f930:7471:0 2f931:7485:0 2f932:74ca:0
   2f933:3f1b:0 2f934:7524:0 2f935:24c36:0 2f936:753e:0 2f937:24c92:0 2f938:7570:0
   2f939:2219f:0 2f93a:7610:0 2f93b:24fa1:0 2f93c:24fb8:0 2f93d:25044:0 2f93e:3ffc:0
   2f93f:4008:0 2f940:76f4:0 2f941:250f3:0 2f942:250f2:0 2f943:25119:0 2f944:25133:0
   2f945:771e:0 2f946:771f:0 2f947:771f:0 2f948:774a:0 2f949:4039:0 2f94a:778b:0 2f94b:4046:0
   2f94c:4096:0 2f94d:2541d:0 2f94e:784e:0 2f94f:788c:0 2f950:78cc:0 2f951:40e3:0 2f952:25626:0
   2f953:7956:0 2f954:2569a:0 2f955:256c5:0 2f956:798f:0 2f957:79eb:0 2f958:412f:0 2f959:7a40:0
   2f95a:7a4a:0 2f95b:7a4f:0 2f95c:2597c:0 2f95d:25aa7:0 2f95e:25aa7:0 2f95f:7aee:0
   2f960:4202:0 2f961:25bab:0 2f962:7bc6:0 2f963:7bc9:0 2f964:4227:0 2f965:25c80:0 2f966:7cd2:0
   2f967:42a0:0 2f968:7ce8:0 2f969:7ce3:0 2f96a:7d00:0 2f96b:25f86:0 2f96c:7d63:0 2f96d:4301:0
   2f96e:7dc7:0 2f96f:7e02:0 2f970:7e45:0 2f971:4334:0 2f972:26228:0 2f973:26247:0 2f974:4359:0
   2f975:262d9:0 2f976:7f7a:0 2f977:2633e:0 2f978:7f95:0 2f979:7ffa:0 2f97a:8005:0
   2f97b:264da:0 2f97c:26523:0 2f97d:8060:0 2f97e:265a8:0 2f97f:8070:0 2f980:2335f:0
   2f981:43d5:0 2f982:80b2:0 2f983:8103:0 2f984:440b:0 2f985:813e:0 2f986:5ab5:0 2f987:267a7:0
   2f988:267b5:0 2f989:23393:0 2f98a:2339c:0 2f98b:8201:0 2f98c:8204:0 2f98d:8f9e:0
   2f98e:446b:0 2f98f:8291:0 2f990:828b:0 2f991:829d:0 2f992:52b3:0 2f993:82b1:0 2f994:82b3:0
   2f995:82bd:0 2f996:82e6:0 2f997:26b3c:0 2f998:82e5:0 2f999:831d:0 2f99a:8363:0 2f99b:83ad:0
   2f99c:8323:0 2f99d:83bd:0 2f99e:83e7:0 2f99f:8457:0 2f9a0:8353:0 2f9a1:83ca:0 2f9a2:83cc:0
   2f9a3:83dc:0 2f9a4:26c36:0 2f9a5:26d6b:0 2f9a6:26cd5:0 2f9a7:452b:0 2f9a8:84f1:0
   2f9a9:84f3:0 2f9aa:8516:0 2f9ab:273ca:0 2f9ac:8564:0 2f9ad:26f2c:0 2f9ae:455d:0 2f9af:4561:0
   2f9b0:26fb1:0 2f9b1:270d2:0 2f9b2:456b:0 2f9b3:8650:0 2f9b4:865c:0 2f9b5:8667:0 2f9b6:8669:0
   2f9b7:86a9:0 2f9b8:8688:0 2f9b9:870e:0 2f9ba:86e2:0 2f9bb:8779:0 2f9bc:8728:0 2f9bd:876b:0
   2f9be:8786:0 2f9bf:45d7:0 2f9c0:87e1:0 2f9c1:8801:0 2f9c2:45f9:0 2f9c3:8860:0 2f9c4:8863:0
   2f9c5:27667:0 2f9c6:88d7:0 2f9c7:88de:0 2f9c8:4635:0 2f9c9:88fa:0 2f9ca:34bb:0 2f9cb:278ae:0
   2f9cc:27966:0 2f9cd:46be:0 2f9ce:46c7:0 2f9cf:8aa0:0 2f9d0:8aed:0 2f9d1:8b8a:0 2f9d2:8c55:0
   2f9d3:27ca8:0 2f9d4:8cab:0 2f9d5:8cc1:0 2f9d6:8d1b:0 2f9d7:8d77:0 2f9d8:27f2f:0
   2f9d9:20804:0 2f9da:8dcb:0 2f9db:8dbc:0 2f9dc:8df0:0 2f9dd:208de:0 2f9de:8ed4:0 2f9df:8f38:0
   2f9e0:285d2:0 2f9e1:285ed:0 2f9e2:9094:0 2f9e3:90f1:0 2f9e4:9111:0 2f9e5:2872e:0
   2f9e6:911b:0 2f9e7:9238:0 2f9e8:92d7:0 2f9e9:92d8:0 2f9ea:927c:0 2f9eb:93f9:0 2f9ec:9415:0
   2f9ed:28bfa:0 2f9ee:958b:0 2f9ef:4995:0 2f9f0:95b7:0 2f9f1:28d77:0 2f9f2:49e6:0 2f9f3:96c3:0
   2f9f4:5db2:0 2f9f5:9723:0 2f9f6:29145:0 2f9f7:2921a:0 2f9f8:4a6e:0 2f9f9:4a76:0 2f9fa:97e0:0
   2f9fb:2940a:0 2f9fc:4ab2:0 2f9fd:29496:0 2f9fe:980b:0 2f9ff:980b:0 2fa00:9829:0
   2fa01:295b6:0 2fa02:98e2:0 2fa03:4b33:0 2fa04:9929:0 2fa05:99a7:0 2fa06:99c2:0 2fa07:99fe:0
   2fa08:4bce:0 2fa09:29b30:0 2fa0a:9b12:0 2fa0b:9c40:0 2fa0c:9cfd:0 2fa0d:4cce:0 2fa0e:4ced:0
   2fa0f:9d67:0 2fa10:2a0ce:0 2fa11:4cf8:0 2fa12:2a105:0 2fa13:2a20e:0 2fa14:2a291:0
   2fa15:9ebb:0 2fa16:4d56:0 2fa17:9ef9:0 2fa18:9efe:0 2fa19:9f05:0 2fa1a:9f0f:0 2fa1b:9f16:0
   2fa1c:9f3b:0 2fa1d:2a600:0"

/-- The classes of marks; every other character has the class zero. -/
def markClassTable : String :=
  "300-314:e6 315:e8 316-319:dc 31a:e8 31b:d8 31c-320:dc 321-322:ca 323-326:dc 327-328:ca
   329-333:dc 334-338:1 339-33c:dc 33d-344:e6 345:f0 346:e6 347-349:dc 34a-34c:e6 34d-34e:dc
   350-352:e6 353-356:dc 357:e6 358:e8 359-35a:dc 35b:e6 35c:e9 35d-35e:ea 35f:e9 360-361:ea
   362:e9 363-36f:e6 483-487:e6 591:dc 592-595:e6 596:dc 597-599:e6 59a:de 59b:dc 59c-5a1:e6
   5a2-5a7:dc 5a8-5a9:e6 5aa:dc 5ab-5ac:e6 5ad:de 5ae:e4 5af:e6 5b0:a 5b1:b 5b2:c 5b3:d 5b4:e
   5b5:f 5b6:10 5b7:11 5b8:12 5b9-5ba:13 5bb:14 5bc:15 5bd:16 5bf:17 5c1:18 5c2:19 5c4:e6
   5c5:dc 5c7:12 610-617:e6 618:1e 619:1f 61a:20 64b:1b 64c:1c 64d:1d 64e:1e 64f:1f 650:20
   651:21 652:22 653-654:e6 655-656:dc 657-65b:e6 65c:dc 65d-65e:e6 65f:dc 670:23 6d6-6dc:e6
   6df-6e2:e6 6e3:dc 6e4:e6 6e7-6e8:e6 6ea:dc 6eb-6ec:e6 6ed:dc 711:24 730:e6 731:dc 732-733:e6
   734:dc 735-736:e6 737-739:dc 73a:e6 73b-73c:dc 73d:e6 73e:dc 73f-741:e6 742:dc 743:e6 744:dc
   745:e6 746:dc 747:e6 748:dc 749-74a:e6 7eb-7f1:e6 7f2:dc 7f3:e6 7fd:dc 816-819:e6 81b-823:e6
   825-827:e6 829-82d:e6 859-85b:dc 897-898:e6 899-89b:dc 89c-89f:e6 8ca-8ce:e6 8cf-8d3:dc
   8d4-8e1:e6 8e3:dc 8e4-8e5:e6 8e6:dc 8e7-8e8:e6 8e9:dc 8ea-8ec:e6 8ed-8ef:dc 8f0:1b 8f1:1c
   8f2:1d 8f3-8f5:e6 8f6:dc 8f7-8f8:e6 8f9-8fa:dc 8fb-8ff:e6 93c:7 94d:9 951:e6 952:dc
   953-954:e6 9bc:7 9cd:9 9fe:e6 a3c:7 a4d:9 abc:7 acd:9 b3c:7 b4d:9 bcd:9 c3c:7 c4d:9 c55:54
   c56:5b cbc:7 ccd:9 d3b-d3c:9 d4d:9 dca:9 e38-e39:67 e3a:9 e48-e4b:6b eb8-eb9:76 eba:9
   ec8-ecb:7a f18-f19:dc f35:dc f37:dc f39:d8 f71:81 f72:82 f74:84 f7a-f7d:82 f80:82 f82-f83:e6
   f84:9 f86-f87:e6 fc6:dc 1037:7 1039-103a:9 108d:dc 135d-135f:e6 1714-1715:9 1734:9 17d2:9
   17dd:e6 18a9:e4 1939:de 193a:e6 193b:dc 1a17:e6 1a18:dc 1a60:9 1a75-1a7c:e6 1a7f:dc
   1ab0-1ab4:e6 1ab5-1aba:dc 1abb-1abc:e6 1abd:dc 1abf-1ac0:dc 1ac1-1ac2:e6 1ac3-1ac4:dc
   1ac5-1ac9:e6 1aca:dc 1acb-1adc:e6 1add:dc 1ae0-1ae5:e6 1ae6:dc 1ae7-1aea:e6 1aeb:ea 1b34:7
   1b44:9 1b6b:e6 1b6c:dc 1b6d-1b73:e6 1baa-1bab:9 1be6:7 1bf2-1bf3:9 1c37:7 1cd0-1cd2:e6
   1cd4:1 1cd5-1cd9:dc 1cda-1cdb:e6 1cdc-1cdf:dc 1ce0:e6 1ce2-1ce8:1 1ced:dc 1cf4:e6
   1cf8-1cf9:e6 1dc0-1dc1:e6 1dc2:dc 1dc3-1dc9:e6 1dca:dc 1dcb-1dcc:e6 1dcd:ea 1dce:d6 1dcf:dc
   1dd0:ca 1dd1-1df5:e6 1df6:e8 1df7-1df8:e4 1df9:dc 1dfa:da 1dfb:e6 1dfc:e9 1dfd:dc 1dfe:e6
   1dff:dc 20d0-20d1:e6 20d2-20d3:1 20d4-20d7:e6 20d8-20da:1 20db-20dc:e6 20e1:e6 20e5-20e6:1
   20e7:e6 20e8:dc 20e9:e6 20ea-20eb:1 20ec-20ef:dc 20f0:e6 2cef-2cf1:e6 2d7f:9 2de0-2dff:e6
   302a:da 302b:e4 302c:e8 302d:de 302e-302f:e0 3099-309a:8 a66f:e6 a674-a67d:e6 a69e-a69f:e6
   a6f0-a6f1:e6 a806:9 a82c:9 a8c4:9 a8e0-a8f1:e6 a92b-a92d:dc a953:9 a9b3:7 a9c0:9 aab0:e6
   aab2-aab3:e6 aab4:dc aab7-aab8:e6 aabe-aabf:e6 aac1:e6 aaf6:9 abed:9 fb1e:1a fe20-fe26:e6
   fe27-fe2d:dc fe2e-fe2f:e6 101fd:dc 102e0:dc 10376-1037a:e6 10a0d:dc 10a0f:e6 10a38:e6
   10a39:1 10a3a:dc 10a3f:9 10ae5:e6 10ae6:dc 10d24-10d27:e6 10d69-10d6d:e6 10eab-10eac:e6
   10efa-10efb:dc 10efd-10eff:dc 10f46-10f47:dc 10f48-10f4a:e6 10f4b:dc 10f4c:e6 10f4d-10f50:dc
   10f82:e6 10f83:dc 10f84:e6 10f85:dc 11046:9 11070:9 1107f:9 110b9:9 110ba:7 11100-11102:e6
   11133-11134:9 11173:7 111c0:9 111ca:7 11235:9 11236:7 112e9:7 112ea:9 1133b-1133c:7 1134d:9
   11366-1136c:e6 11370-11374:e6 113ce-113d0:9 11442:9 11446:7 1145e:e6 114c2:9 114c3:7 115bf:9
   115c0:7 1163f:9 116b6:9 116b7:7 1172b:9 11839:9 1183a:7 1193d-1193e:9 11943:7 119e0:9
   11a34:9 11a47:9 11a99:9 11c3f:9 11d42:7 11d44-11d45:9 11d97:9 11f41-11f42:9 1612f:9
   16af0-16af4:1 16b30-16b36:e6 16ff0-16ff1:6 1bc9e:1 1d165-1d166:d8 1d167-1d169:1 1d16d:e2
   1d16e-1d172:d8 1d17b-1d182:dc 1d185-1d189:e6 1d18a-1d18b:dc 1d1aa-1d1ad:e6 1d242-1d244:e6
   1e000-1e006:e6 1e008-1e018:e6 1e01b-1e021:e6 1e023-1e024:e6 1e026-1e02a:e6 1e08f:e6
   1e130-1e136:e6 1e2ae:e6 1e2ec-1e2ef:e6 1e4ec-1e4ed:e8 1e4ee:dc 1e4ef:e6 1e5ee:e6 1e5ef:dc
   1e6e3:e6 1e6e6:e6 1e6ee-1e6ef:e6 1e6f5:e6 1e8d0-1e8d6:dc 1e944-1e949:e6 1e94a:7"

/-- A character and its parts. -/
structure Decomposition where
  whole : Nat
  parts : List Nat
  isComposed : Bool

def decompositions : List Decomposition :=
  (entriesOf decompositionTable).filterMap fun
    | [[c], parts] => some ⟨c, parts, true⟩
    | [[c], parts, _] => some ⟨c, parts, false⟩
    | _ => none

/-- Ranges of marks with their classes. -/
def markClasses : List (Nat × Nat × Nat) :=
  (entriesOf markClassTable).filterMap fun
    | [[c], [k]] => some (c, c, k)
    | [[a, b], [k]] => some (a, b, k)
    | _ => none

/-- The class of a character. -/
def markClass (c : Nat) : Nat :=
  match markClasses.find? fun r => r.1 ≤ c && c ≤ r.2.1 with
  | some r => r.2.2
  | none => 0

/-! ## Hangul -/

def hangulFirst : Nat := 0xac00
def leadFirst : Nat := 0x1100
def vowelFirst : Nat := 0x1161
/-- One less than the first consonant that ends a syllable. -/
def tailFirst : Nat := 0x11a7
def leadCount : Nat := 19
def vowelCount : Nat := 21
def tailCount : Nat := 28

/-- The parts of a syllable. -/
def hangulParts (c : Nat) : List Nat :=
  let i := c - hangulFirst
  let front :=
    [leadFirst + i / (vowelCount * tailCount),
      vowelFirst + i % (vowelCount * tailCount) / tailCount]
  if i % tailCount = 0 then front else front ++ [tailFirst + i % tailCount]

/-- The syllable that two parts make. -/
def hangulWhole? (a b : Nat) : Option Nat :=
  if leadFirst ≤ a && a < leadFirst + leadCount &&
      vowelFirst ≤ b && b < vowelFirst + vowelCount then
    some (hangulFirst + ((a - leadFirst) * vowelCount + (b - vowelFirst)) * tailCount)
  else if hangulFirst ≤ a && a < hangulFirst + leadCount * vowelCount * tailCount &&
      (a - hangulFirst) % tailCount = 0 && tailFirst < b && b < tailFirst + tailCount then
    some (a + (b - tailFirst))
  else none

/-! ## Composition -/

/-- The parts of a character down to those without parts; no character takes more than four
steps. -/
def decomposeWithin : Nat → Nat → List Nat
  | 0, c => [c]
  | steps + 1, c =>
    if hangulFirst ≤ c && c < hangulFirst + leadCount * vowelCount * tailCount then hangulParts c
    else match decompositions.find? (·.whole == c) with
      | some d => d.parts.flatMap (decomposeWithin steps)
      | none => [c]

/-- The character that two make, if there is one. -/
def compose? (a b : Nat) : Option Nat :=
  match hangulWhole? a b with
  | some c => some c
  | none => (decompositions.find? fun d => d.isComposed && d.parts == [a, b]).map (·.whole)

/-- Puts a character behind others; a mark moves in front of marks of higher classes. The others
come last first. -/
def insertMark (c : Nat) : List Nat → List Nat
  | [] => [c]
  | d :: rest =>
    if markClass c != 0 && markClass c < markClass d then d :: insertMark c rest
    else c :: d :: rest

/-- Puts characters together. `starter` is the last character that is no mark, `marks` are those
behind it, the last of which comes first. -/
def composeFrom (starter : Option Nat) (marks : List Nat) : List Nat → List Nat
  | [] => starter.toList ++ marks.reverse
  | c :: rest =>
    let k := markClass c
    let isFree := match marks with
      | [] => true
      | m :: _ => markClass m < k
    match (if isFree then starter.bind (compose? · c) else none) with
    | some whole => composeFrom (some whole) marks rest
    | none =>
      if k = 0 then starter.toList ++ marks.reverse ++ composeFrom (some c) [] rest
      else composeFrom starter (c :: marks) rest

/-- The canonical composition of a text. -/
def composed (cs : List Char) : List Char :=
  let parts := cs.flatMap fun c => decomposeWithin 4 c.toNat
  let sorted := (parts.foldl (fun done c => insertMark c done) []).reverse
  (composeFrom none [] sorted).map Char.ofNat

end LogPipeline.Text
