/-!
# The strings of the object world

Every name, qualified name and message the tables refer to, one per line.
-/

namespace CommandLine.Objects.Data

/-- The strings, one per line. -/
def stringsText : String :=
  "__future__\n__name__\n__doc__\n__package__\n__loader__\n__spec__\n__file__\n__cached__\n__builtins__\nall_feature_names\n__all__\nCO_NESTED\nCO_GENERATOR_ALLOWED\nCO_FUTURE_DIVISION\nCO_FUTURE_ABSOLUTE_IMPORT\nCO_FUTURE_WITH_STATEMENT\nCO_FUTURE_PRINT_FUNCTION\nCO_FUTURE_UNICODE_LITERALS\nCO_FUTURE_BARRY_AS_BDFL\nCO_FUTURE_GENERATOR_STOP\nCO_FUTURE_ANNOTATIONS\n_Feature\nnested_scopes\ngenerators\ndivision\nabsolute_import\nwith_statement\nprint_function\nunicode_literals\nbarry_as_FLUFL\ngenerator_stop\nannotations\n_abc\nget_cache_token\n_abc_init\n_reset_registry\n_reset_caches\n_get_dump\n_abc_register\n_abc_instancecheck\n_abc_subclasscheck\n_ast\nAST\nPyCF_ALLOW_TOP_LEVEL_AWAIT\nPyCF_ONLY_AST\nPyCF_TYPE_COMMENTS\nmod\nModule\nInteractive\nExpression\nFunctionType\nstmt\nFunctionDef\nAsyncFunctionDef\nClassDef\nReturn\nDelete\nAssign\nAugAssign\nAnnAssign\nFor\nAsyncFor\nWhile\nIf\nWith\nAsyncWith\nMatch\nRaise\nTry\nTryStar\nAssert\nImport\nImportFrom\nGlobal\nNonlocal\nExpr\nPass\nBreak\nContinue\nexpr\nBoolOp\nNamedExpr\nBinOp\nUnaryOp\nLambda\nIfExp\nDict\nSet\nListComp\nSetComp\nDictComp\nGeneratorExp\nAwait\nYield\nYieldFrom\nCompare\nCall\nFormattedValue\nJoinedStr\nConstant\nAttribute\nSubscript\nStarred\nName\nList\nTuple\nSlice\nexpr_context\nLoad\nStore\nDel\nboolop\nAnd\nOr\noperator\nAdd\nSub\nMult\nMatMult\nDiv\nMod\nPow\nLShift\nRShift\nBitOr\nBitXor\nBitAnd\nFloorDiv\nunaryop\nInvert\nNot\nUAdd\nUSub\ncmpop\nEq\nNotEq\nLt\nLtE\nGt\nGtE\nIs\nIsNot\nIn\nNotIn\ncomprehension\nexcepthandler\nExceptHandler\narguments\narg\nkeyword\nalias\nwithitem\nmatch_case\npattern\nMatchValue\nMatchSingleton\nMatchSequence\nMatchMapping\nMatchClass\nMatchStar\nMatchAs\nMatchOr\ntype_ignore\nTypeIgnore\n_bisect\nbisect_right\ninsort_right\nbisect_left\ninsort_left\n_blake2\nblake2b\nBLAKE2B_SALT_SIZE\nBLAKE2B_PERSON_SIZE\nBLAKE2B_MAX_KEY_SIZE\nBLAKE2B_MAX_DIGEST_SIZE\nblake2s\nBLAKE2S_SALT_SIZE\nBLAKE2S_PERSON_SIZE\nBLAKE2S_MAX_KEY_SIZE\nBLAKE2S_MAX_DIGEST_SIZE\n_bz2\nBZ2Compressor\nBZ2Decompressor\n_codecs\nregister\nunregister\nlookup\nencode\ndecode\nescape_encode\nescape_decode\nutf_8_encode\nutf_8_decode\nutf_7_encode\nutf_7_decode\nutf_16_encode\nutf_16_le_encode\nutf_16_be_encode\nutf_16_decode\nutf_16_le_decode\nutf_16_be_decode\nutf_16_ex_decode\nutf_32_encode\nutf_32_le_encode\nutf_32_be_encode\nutf_32_decode\nutf_32_le_decode\nutf_32_be_decode\nutf_32_ex_decode\nunicode_escape_encode\nunicode_escape_decode\nraw_unicode_escape_encode\nraw_unicode_escape_decode\nlatin_1_encode\nlatin_1_decode\nascii_encode\nascii_decode\ncharmap_encode\ncharmap_decode\ncharmap_build\nreadbuffer_encode\nregister_error\nlookup_error\n_collections\n_count_elements\ndeque\ndefaultdict\nOrderedDict\n_deque_iterator\n_deque_reverse_iterator\n_tuplegetter\ncollections.abc\nABCMeta\nabstractmethod\nsys\nGenericAlias\nEllipsisType\nbytes_iterator\nbytearray_iterator\ndict_keyiterator\ndict_valueiterator\ndict_itemiterator\nlist_iterator\nlist_reverseiterator\nrange_iterator\nlongrange_iterator\nset_iterator\nstr_iterator\ntuple_iterator\nzip_iterator\ndict_keys\ndict_values\ndict_items\nmappingproxy\ngenerator\ncoroutine\nasync_generator\n_check_methods\nHashable\nAwaitable\nCoroutine\nAsyncIterable\nAsyncIterator\nAsyncGenerator\nIterable\nIterator\nReversible\nGenerator\nSized\nContainer\nCollection\n_CallableGenericAlias\n_is_param_expr\n_type_repr\nCallable\nMutableSet\nMapping\nMappingView\nKeysView\nItemsView\nValuesView\nMutableMapping\nSequence\nByteString\nMutableSequence\n_compat_pickle\nIMPORT_MAPPING\nNAME_MAPPING\nPYTHON2_EXCEPTIONS\nMULTIPROCESSING_EXCEPTIONS\nREVERSE_IMPORT_MAPPING\nREVERSE_NAME_MAPPING\nPYTHON3_OSERROR_EXCEPTIONS\nPYTHON3_IMPORTERROR_EXCEPTIONS\n_compression\nio\nBUFFER_SIZE\nBaseStream\nDecompressReader\n_contextvars\ncopy_context\nContext\nContextVar\nToken\n_csv\nreader\nwriter\nregister_dialect\nlist_dialects\nunregister_dialect\nget_dialect\nfield_size_limit\nDialect\nReader\nWriter\n__version__\n_dialects\nQUOTE_MINIMAL\nQUOTE_ALL\nQUOTE_NONNUMERIC\nQUOTE_NONE\nError\n_ctypes\nget_errno\nset_errno\nPOINTER\npointer\n_unpickle\nbuffer_info\nresize\ndlopen\ndlclose\ndlsym\nalignment\nsizeof\nbyref\naddressof\ncall_function\ncall_cdeclfunction\nPyObj_FromPtr\nPy_INCREF\nPy_DECREF\nStructure\nUnion\n_Pointer\nArray\n_SimpleCData\nCFuncPtr\n_pointer_type_cache\nFUNCFLAG_CDECL\nFUNCFLAG_USE_ERRNO\nFUNCFLAG_USE_LASTERROR\nFUNCFLAG_PYTHONAPI\n_memmove_addr\n_memset_addr\n_string_at_addr\n_cast_addr\n_wstring_at_addr\nRTLD_LOCAL\nRTLD_GLOBAL\nCTYPES_MAX_ARGCOUNT\nArgumentError\n_datetime\ndate\ndatetime\ntime\ntimedelta\ntzinfo\ntimezone\nMINYEAR\nMAXYEAR\ndatetime_CAPI\nUTC\ndecimal\ngetcontext\nsetcontext\nlocalcontext\nDecimal\nDecimalTuple\nDecimalException\nClamped\nRounded\nInexact\nSubnormal\nUnderflow\nOverflow\nDivisionByZero\nFloatOperation\nInvalidOperation\nConversionSyntax\nDivisionImpossible\nDivisionUndefined\nInvalidContext\nDefaultContext\nHAVE_CONTEXTVAR\nHAVE_THREADS\nBasicContext\nExtendedContext\nMAX_PREC\nMAX_EMAX\nMIN_EMIN\nMIN_ETINY\nROUND_UP\nROUND_DOWN\nROUND_CEILING\nROUND_FLOOR\nROUND_HALF_UP\nROUND_HALF_DOWN\nROUND_HALF_EVEN\nROUND_05UP\n__libmpdec_version__\n_elementtree\nSubElement\n_set_factories\nParseError\nElement\nTreeBuilder\nXMLParser\nimportlib._bootstrap\n_object_name\n_thread\n_warnings\n_weakref\n_bootstrap_external\n_wrap\n_new_module\n_module_locks\n_blocking_on\n_DeadlockError\n_ModuleLock\n_DummyModuleLock\n_ModuleLockManager\n_get_module_lock\n_lock_unlock_module\n_call_with_frames_removed\n_verbose_message\n_requires_builtin\n_requires_frozen\n_load_module_shim\n_module_repr\nModuleSpec\nspec_from_loader\n_spec_from_module\n_init_module_attrs\nmodule_from_spec\n_module_repr_from_spec\n_exec\n_load_backward_compatible\n_load_unlocked\n_load\nBuiltinImporter\nFrozenImporter\n_ImportLockContext\n_resolve_name\n_find_spec_legacy\n_find_spec\n_sanity_check\n_ERR_MSG_PREFIX\n_ERR_MSG\n_find_and_load_unlocked\n_NEEDS_LOADING\n_find_and_load\n_gcd_import\n_handle_fromlist\n_calc___package__\n__import__\n_builtin_from_name\n_setup\n_install\n_install_external_importers\n_imp\nimportlib._bootstrap_external\n_bootstrap\n_io\nmarshal\n_MS_WINDOWS\n_os\npath_separators\npath_sep\npath_sep_tuple\n_pathseps_with_colon\n_CASE_INSENSITIVE_PLATFORMS_STR_KEY\n_CASE_INSENSITIVE_PLATFORMS_BYTES_KEY\n_CASE_INSENSITIVE_PLATFORMS\n_make_relax_case\n_relax_case\n_pack_uint32\n_unpack_uint32\n_unpack_uint16\n_path_join\n_path_split\n_path_stat\n_path_is_mode_type\n_path_isfile\n_path_isdir\n_path_isabs\n_write_atomic\n_code_type\nMAGIC_NUMBER\n_RAW_MAGIC_NUMBER\n_PYCACHE\n_OPT\nSOURCE_SUFFIXES\nEXTENSION_SUFFIXES\nBYTECODE_SUFFIXES\nDEBUG_BYTECODE_SUFFIXES\nOPTIMIZED_BYTECODE_SUFFIXES\ncache_from_source\nsource_from_cache\n_get_sourcefile\n_get_cached\n_calc_mode\n_check_name\n_find_module_shim\n_classify_pyc\n_validate_timestamp_pyc\n_validate_hash_pyc\n_compile_bytecode\n_code_to_timestamp_pyc\n_code_to_hash_pyc\ndecode_source\n_POPULATE\nspec_from_file_location\nWindowsRegistryFinder\n_LoaderBasics\nSourceLoader\nFileLoader\nSourceFileLoader\nSourcelessFileLoader\nExtensionFileLoader\n_NamespacePath\nNamespaceLoader\n_NamespaceLoader\nPathFinder\nFileFinder\n_fix_up_module\n_get_supported_file_loaders\n_set_bootstrap_module\n_functools\nreduce\ncmp_to_key\npartial\n_lru_cache_wrapper\n_hashlib\nnew\npbkdf2_hmac\nscrypt\nget_fips_mode\ncompare_digest\nhmac_digest\nhmac_new\nopenssl_md5\nopenssl_sha1\nopenssl_sha224\nopenssl_sha256\nopenssl_sha384\nopenssl_sha512\nopenssl_sha3_224\nopenssl_sha3_256\nopenssl_sha3_384\nopenssl_sha3_512\nopenssl_shake_128\nopenssl_shake_256\nHASH\nHASHXOF\nHMAC\nopenssl_md_meth_names\n_constructors\nUnsupportedDigestmodError\n_heapq\nheappush\nheappushpop\nheappop\nheapreplace\nheapify\n_heappop_max\n_heapify_max\n_heapreplace_max\n__about__\nextension_suffixes\nlock_held\nacquire_lock\nrelease_lock\nfind_frozen\nget_frozen_object\nis_frozen_package\ncreate_builtin\ninit_frozen\nis_builtin\nis_frozen\n_frozen_module_names\n_override_frozen_modules_for_tests\ncreate_dynamic\nexec_dynamic\nexec_builtin\n_fix_co_filename\nsource_hash\ncheck_hash_based_pycs\nopen\ntext_encoding\nopen_code\nDEFAULT_BUFFER_SIZE\nUnsupportedOperation\nBlockingIOError\n_IOBase\nIncrementalNewlineDecoder\n_BufferedIOBase\n_RawIOBase\n_TextIOBase\nBytesIO\nBufferedReader\nBufferedWriter\nBufferedRWPair\nBufferedRandom\nFileIO\nStringIO\nTextIOWrapper\n_json\nencode_basestring_ascii\nencode_basestring\nscanstring\nmake_scanner\nmake_encoder\n_locale\nsetlocale\nlocaleconv\nstrcoll\nstrxfrm\nnl_langinfo\ngettext\ndgettext\ndcgettext\ntextdomain\nbindtextdomain\nbind_textdomain_codeset\ngetencoding\nLC_CTYPE\nLC_TIME\nLC_COLLATE\nLC_MONETARY\nLC_MESSAGES\nLC_NUMERIC\nLC_ALL\nCHAR_MAX\nDAY_1\nDAY_2\nDAY_3\nDAY_4\nDAY_5\nDAY_6\nDAY_7\nABDAY_1\nABDAY_2\nABDAY_3\nABDAY_4\nABDAY_5\nABDAY_6\nABDAY_7\nMON_1\nMON_2\nMON_3\nMON_4\nMON_5\nMON_6\nMON_7\nMON_8\nMON_9\nMON_10\nMON_11\nMON_12\nABMON_1\nABMON_2\nABMON_3\nABMON_4\nABMON_5\nABMON_6\nABMON_7\nABMON_8\nABMON_9\nABMON_10\nABMON_11\nABMON_12\nRADIXCHAR\nTHOUSEP\nCRNCYSTR\nD_T_FMT\nD_FMT\nT_FMT\nAM_STR\nPM_STR\nCODESET\nT_FMT_AMPM\nERA\nERA_D_FMT\nERA_D_T_FMT\nERA_T_FMT\nALT_DIGITS\nYESEXPR\nNOEXPR\n_DATE_FMT\n_lzma\nis_check_supported\n_encode_filter_properties\n_decode_filter_properties\nFORMAT_AUTO\nFORMAT_XZ\nFORMAT_ALONE\nFORMAT_RAW\nCHECK_NONE\nCHECK_CRC32\nCHECK_CRC64\nCHECK_SHA256\nCHECK_ID_MAX\nCHECK_UNKNOWN\nFILTER_LZMA1\nFILTER_LZMA2\nFILTER_DELTA\nFILTER_X86\nFILTER_IA64\nFILTER_ARM\nFILTER_ARMTHUMB\nFILTER_SPARC\nFILTER_POWERPC\nMF_HC3\nMF_HC4\nMF_BT2\nMF_BT3\nMF_BT4\nMODE_FAST\nMODE_NORMAL\nPRESET_DEFAULT\nPRESET_EXTREME\nLZMAError\nLZMACompressor\nLZMADecompressor\n_markupbase\n_declname_match\n_declstringlit_match\n_commentclose\n_markedsectionclose\n_msmarkedsectionclose\nParserBase\n_multiprocessing\nsem_unlink\nSemLock\nflags\n_opcode\nstack_effect\nget_specialization_stats\n_operator\ntruth\ncontains\nindexOf\ncountOf\nis_\nis_not\nindex\nadd\nsub\nmul\nmatmul\nfloordiv\ntruediv\nneg\npos\nabs\ninv\ninvert\nlshift\nrshift\nnot_\nand_\nxor\nor_\niadd\nisub\nimul\nimatmul\nifloordiv\nitruediv\nimod\nilshift\nirshift\niand\nixor\nior\nconcat\niconcat\ngetitem\nsetitem\ndelitem\npow\nipow\neq\nne\nlt\nle\ngt\nge\n_compare_digest\nlength_hint\ncall\nattrgetter\nitemgetter\nmethodcaller\n_pickle\ndump\ndumps\nload\nloads\nPickler\nUnpickler\nPickleBuffer\nPickleError\nPicklingError\nUnpicklingError\n_posixsubprocess\nfork_exec\n_queue\nEmpty\nSimpleQueue\n_random\nRandom\n_sha512\nsha512\nsha384\nSHA384Type\n_signal\ndefault_int_handler\nalarm\nsetitimer\ngetitimer\nsignal\nraise_signal\nstrsignal\ngetsignal\nset_wakeup_fd\nsiginterrupt\npause\npthread_kill\npthread_sigmask\nsigpending\nsigwait\nsigwaitinfo\nsigtimedwait\nvalid_signals\nNSIG\nSIG_BLOCK\nSIG_UNBLOCK\nSIG_SETMASK\nSIGHUP\nSIGINT\nSIGQUIT\nSIGILL\nSIGTRAP\nSIGIOT\nSIGABRT\nSIGFPE\nSIGKILL\nSIGBUS\nSIGSEGV\nSIGSYS\nSIGPIPE\nSIGALRM\nSIGTERM\nSIGUSR1\nSIGUSR2\nSIGCLD\nSIGCHLD\nSIGPWR\nSIGIO\nSIGURG\nSIGWINCH\nSIGPOLL\nSIGSTOP\nSIGTSTP\nSIGCONT\nSIGTTIN\nSIGTTOU\nSIGVTALRM\nSIGPROF\nSIGXCPU\nSIGXFSZ\nSIGRTMIN\nSIGRTMAX\nSIGSTKFLT\nITIMER_REAL\nITIMER_VIRTUAL\nITIMER_PROF\nSIG_DFL\nSIG_IGN\nItimerError\nstruct_siginfo\npidfd_send_signal\n_sitebuiltins\nQuitter\n_Printer\n_Helper\n_socket\ngethostbyname\ngethostbyname_ex\ngethostbyaddr\ngethostname\nsethostname\ngetservbyname\ngetservbyport\ngetprotobyname\nclose\ndup\nsocketpair\nntohs\nntohl\nhtons\nhtonl\ninet_aton\ninet_ntoa\ninet_pton\ninet_ntop\ngetaddrinfo\ngetnameinfo\ngetdefaulttimeout\nsetdefaulttimeout\nif_nameindex\nif_nametoindex\nif_indextoname\nCMSG_LEN\nCMSG_SPACE\nerror\nherror\ngaierror\ntimeout\nSocketType\nsocket\nhas_ipv6\nCAPI\nAF_UNSPEC\nAF_INET\nAF_UNIX\nAF_AX25\nAF_IPX\nAF_APPLETALK\nAF_NETROM\nAF_BRIDGE\nAF_ATMPVC\nAF_ALG\nAF_X25\nAF_INET6\nAF_ROSE\nAF_DECnet\nAF_NETBEUI\nAF_SECURITY\nAF_KEY\nAF_NETLINK\nNETLINK_ROUTE\nNETLINK_USERSOCK\nNETLINK_FIREWALL\nNETLINK_NFLOG\nNETLINK_XFRM\nNETLINK_IP6_FW\nNETLINK_DNRTMSG\nNETLINK_CRYPTO\nAF_ROUTE\nAF_ASH\nAF_ECONET\nAF_ATMSVC\nAF_SNA\nAF_IRDA\nAF_PPPOX\nAF_WANPIPE\nAF_LLC\nAF_CAN\nPF_CAN\nAF_RDS\nPF_RDS\nAF_PACKET\nPF_PACKET\nPACKET_HOST\nPACKET_BROADCAST\nPACKET_MULTICAST\nPACKET_OTHERHOST\nPACKET_OUTGOING\nPACKET_LOOPBACK\nPACKET_FASTROUTE\nAF_TIPC\nTIPC_ADDR_NAMESEQ\nTIPC_ADDR_NAME\nTIPC_ADDR_ID\nTIPC_ZONE_SCOPE\nTIPC_CLUSTER_SCOPE\nTIPC_NODE_SCOPE\nSOL_TIPC\nTIPC_IMPORTANCE\nTIPC_SRC_DROPPABLE\nTIPC_DEST_DROPPABLE\nTIPC_CONN_TIMEOUT\nTIPC_LOW_IMPORTANCE\nTIPC_MEDIUM_IMPORTANCE\nTIPC_HIGH_IMPORTANCE\nTIPC_CRITICAL_IMPORTANCE\nTIPC_SUB_PORTS\nTIPC_SUB_SERVICE\nTIPC_SUB_CANCEL\nTIPC_WAIT_FOREVER\nTIPC_PUBLISHED\nTIPC_WITHDRAWN\nTIPC_SUBSCR_TIMEOUT\nTIPC_CFG_SRV\nTIPC_TOP_SRV\nALG_SET_KEY\nALG_SET_IV\nALG_SET_OP\nALG_SET_AEAD_ASSOCLEN\nALG_SET_AEAD_AUTHSIZE\nALG_SET_PUBKEY\nALG_OP_DECRYPT\nALG_OP_ENCRYPT\nALG_OP_SIGN\nALG_OP_VERIFY\nSOCK_STREAM\nSOCK_DGRAM\nSOCK_RAW\nSOCK_SEQPACKET\nSOCK_RDM\nSOCK_CLOEXEC\nSOCK_NONBLOCK\nSO_DEBUG\nSO_ACCEPTCONN\nSO_REUSEADDR\nSO_KEEPALIVE\nSO_DONTROUTE\nSO_BROADCAST\nSO_LINGER\nSO_OOBINLINE\nSO_REUSEPORT\nSO_SNDBUF\nSO_RCVBUF\nSO_SNDLOWAT\nSO_RCVLOWAT\nSO_SNDTIMEO\nSO_RCVTIMEO\nSO_ERROR\nSO_TYPE\nSO_PASSCRED\nSO_PEERCRED\nSO_PASSSEC\nSO_PEERSEC\nSO_BINDTODEVICE\nSO_PRIORITY\nSO_MARK\nSO_DOMAIN\nSO_PROTOCOL\nSOMAXCONN\nSCM_RIGHTS\nSCM_CREDENTIALS\nMSG_OOB\nMSG_PEEK\nMSG_DONTROUTE\nMSG_DONTWAIT\nMSG_EOR\nMSG_TRUNC\nMSG_CTRUNC\nMSG_WAITALL\nMSG_NOSIGNAL\nMSG_CMSG_CLOEXEC\nMSG_ERRQUEUE\nMSG_CONFIRM\nMSG_MORE\nMSG_FASTOPEN\nSOL_SOCKET\nSOL_IP\nSOL_TCP\nSOL_UDP\nSOL_CAN_BASE\nSOL_CAN_RAW\nCAN_RAW\nCAN_EFF_FLAG\nCAN_RTR_FLAG\nCAN_ERR_FLAG\nCAN_SFF_MASK\nCAN_EFF_MASK\nCAN_ERR_MASK\nCAN_ISOTP\nCAN_RAW_FILTER\nCAN_RAW_LOOPBACK\nCAN_RAW_RECV_OWN_MSGS\nCAN_RAW_FD_FRAMES\nCAN_BCM\nCAN_BCM_TX_SETUP\nCAN_BCM_TX_DELETE\nCAN_BCM_TX_READ\nCAN_BCM_TX_SEND\nCAN_BCM_RX_SETUP\nCAN_BCM_RX_DELETE\nCAN_BCM_RX_READ\nCAN_BCM_TX_STATUS\nCAN_BCM_TX_EXPIRED\nCAN_BCM_RX_STATUS\nCAN_BCM_RX_TIMEOUT\nCAN_BCM_RX_CHANGED\nCAN_BCM_SETTIMER\nCAN_BCM_STARTTIMER\nCAN_BCM_TX_COUNTEVT\nCAN_BCM_TX_ANNOUNCE\nCAN_BCM_TX_CP_CAN_ID\nCAN_BCM_RX_FILTER_ID\nCAN_BCM_RX_CHECK_DLC\nCAN_BCM_RX_NO_AUTOTIMER\nCAN_BCM_RX_ANNOUNCE_RESUME\nCAN_BCM_TX_RESET_MULTI_IDX\nCAN_BCM_RX_RTR_FRAME\nSOL_ALG\nIPPROTO_IP\nIPPROTO_HOPOPTS\nIPPROTO_ICMP\nIPPROTO_IGMP\nIPPROTO_IPV6\nIPPROTO_IPIP\nIPPROTO_TCP\nIPPROTO_EGP\nIPPROTO_PUP\nIPPROTO_UDP\nIPPROTO_UDPLITE\nUDPLITE_SEND_CSCOV\nUDPLITE_RECV_CSCOV\nIPPROTO_IDP\nIPPROTO_TP\nIPPROTO_ROUTING\nIPPROTO_FRAGMENT\nIPPROTO_RSVP\nIPPROTO_GRE\nIPPROTO_ESP\nIPPROTO_AH\nIPPROTO_ICMPV6\nIPPROTO_NONE\nIPPROTO_DSTOPTS\nIPPROTO_PIM\nIPPROTO_SCTP\nIPPROTO_RAW\nIPPORT_RESERVED\nIPPORT_USERRESERVED\nINADDR_ANY\nINADDR_BROADCAST\nINADDR_LOOPBACK\nINADDR_UNSPEC_GROUP\nINADDR_ALLHOSTS_GROUP\nINADDR_MAX_LOCAL_GROUP\nINADDR_NONE\nIP_OPTIONS\nIP_HDRINCL\nIP_TOS\nIP_TTL\nIP_RECVOPTS\nIP_RECVRETOPTS\nIP_RECVTOS\nIP_RETOPTS\nIP_MULTICAST_IF\nIP_MULTICAST_TTL\nIP_MULTICAST_LOOP\nIP_ADD_MEMBERSHIP\nIP_DROP_MEMBERSHIP\nIP_DEFAULT_MULTICAST_TTL\nIP_DEFAULT_MULTICAST_LOOP\nIP_MAX_MEMBERSHIPS\nIP_TRANSPARENT\nIPV6_JOIN_GROUP\nIPV6_LEAVE_GROUP\nIPV6_MULTICAST_HOPS\nIPV6_MULTICAST_IF\nIPV6_MULTICAST_LOOP\nIPV6_UNICAST_HOPS\nIPV6_V6ONLY\nIPV6_CHECKSUM\nIPV6_DSTOPTS\nIPV6_HOPLIMIT\nIPV6_HOPOPTS\nIPV6_NEXTHOP\nIPV6_PKTINFO\nIPV6_RECVDSTOPTS\nIPV6_RECVHOPLIMIT\nIPV6_RECVHOPOPTS\nIPV6_RECVPKTINFO\nIPV6_RECVRTHDR\nIPV6_RECVTCLASS\nIPV6_RTHDR\nIPV6_RTHDRDSTOPTS\nIPV6_RTHDR_TYPE_0\nIPV6_TCLASS\nTCP_NODELAY\nTCP_MAXSEG\nTCP_CORK\nTCP_KEEPIDLE\nTCP_KEEPINTVL\nTCP_KEEPCNT\nTCP_SYNCNT\nTCP_LINGER2\nTCP_DEFER_ACCEPT\nTCP_WINDOW_CLAMP\nTCP_INFO\nTCP_QUICKACK\nTCP_FASTOPEN\nTCP_CONGESTION\nTCP_USER_TIMEOUT\nEAI_ADDRFAMILY\nEAI_AGAIN\nEAI_BADFLAGS\nEAI_FAIL\nEAI_FAMILY\nEAI_MEMORY\nEAI_NODATA\nEAI_NONAME\nEAI_OVERFLOW\nEAI_SERVICE\nEAI_SOCKTYPE\nEAI_SYSTEM\nAI_PASSIVE\nAI_CANONNAME\nAI_NUMERICHOST\nAI_NUMERICSERV\nAI_ALL\nAI_ADDRCONFIG\nAI_V4MAPPED\nNI_MAXHOST\nNI_MAXSERV\nNI_NOFQDN\nNI_NUMERICHOST\nNI_NAMEREQD\nNI_NUMERICSERV\nNI_DGRAM\nSHUT_RD\nSHUT_WR\nSHUT_RDWR\n_sre\ncompile\ngetcodesize\nascii_iscased\nunicode_iscased\nascii_tolower\nunicode_tolower\nMAGIC\nCODESIZE\nMAXREPEAT\nMAXGROUPS\ncopyright\n_stat\nS_ISDIR\nS_ISCHR\nS_ISBLK\nS_ISREG\nS_ISFIFO\nS_ISLNK\nS_ISSOCK\nS_ISDOOR\nS_ISPORT\nS_ISWHT\nS_IMODE\nS_IFMT\nfilemode\nS_IFDIR\nS_IFCHR\nS_IFBLK\nS_IFREG\nS_IFIFO\nS_IFLNK\nS_IFSOCK\nS_IFDOOR\nS_IFPORT\nS_IFWHT\nS_ISUID\nS_ISGID\nS_ISVTX\nS_ENFMT\nS_IREAD\nS_IWRITE\nS_IEXEC\nS_IRWXU\nS_IRUSR\nS_IWUSR\nS_IXUSR\nS_IRWXG\nS_IRGRP\nS_IWGRP\nS_IXGRP\nS_IRWXO\nS_IROTH\nS_IWOTH\nS_IXOTH\nUF_NODUMP\nUF_IMMUTABLE\nUF_APPEND\nUF_OPAQUE\nUF_NOUNLINK\nUF_COMPRESSED\nUF_HIDDEN\nSF_ARCHIVED\nSF_IMMUTABLE\nSF_APPEND\nSF_NOUNLINK\nSF_SNAPSHOT\nST_MODE\nST_INO\nST_DEV\nST_NLINK\nST_UID\nST_GID\nST_SIZE\nST_ATIME\nST_MTIME\nST_CTIME\n_statistics\n_normal_dist_inv_cdf\n_string\nformatter_field_name_split\nformatter_parser\n_struct\n_clearcache\ncalcsize\niter_unpack\npack\npack_into\nunpack\nunpack_from\nStruct\nstart_new_thread\nstart_new\nallocate_lock\nallocate\nexit_thread\nexit\ninterrupt_main\nget_ident\nget_native_id\n_count\nstack_size\n_set_sentinel\n_excepthook\nLockType\nRLock\n_local\n_ExceptHookArgs\nTIMEOUT_MAX\n_typing\n_idfunc\n_uuid\ngenerate_time_safe\nhas_uuid_generate_time_safe\nwarn\nwarn_explicit\n_filters_mutated\nfilters\n_onceregistry\n_defaultaction\ngetweakrefcount\n_remove_dead_weakref\ngetweakrefs\nproxy\nref\nReferenceType\nProxyType\nCallableProxyType\n_weakrefset\n_IterationGuard\nWeakSet\nabc\nabstractclassmethod\nabstractstaticmethod\nabstractproperty\nupdate_abstractmethods\nABC\nargparse\n_re\n_sys\nwarnings\n_\nngettext\nSUPPRESS\nOPTIONAL\nZERO_OR_MORE\nONE_OR_MORE\nPARSER\nREMAINDER\n_UNRECOGNIZED_ARGS_ATTR\n_AttributeHolder\n_copy_items\nHelpFormatter\nRawDescriptionHelpFormatter\nRawTextHelpFormatter\nArgumentDefaultsHelpFormatter\nMetavarTypeHelpFormatter\n_get_action_name\nArgumentTypeError\nAction\nBooleanOptionalAction\n_StoreAction\n_StoreConstAction\n_StoreTrueAction\n_StoreFalseAction\n_AppendAction\n_AppendConstAction\n_CountAction\n_HelpAction\n_VersionAction\n_SubParsersAction\n_ExtendAction\nFileType\nNamespace\n_ActionsContainer\n_ArgumentGroup\n_MutuallyExclusiveGroup\nArgumentParser\narray\n_array_reconstructor\nArrayType\ntypecodes\nast\ncontextmanager\nnullcontext\nIntEnum\nauto\n_simple_enum\nparse\nliteral_eval\ncopy_location\nfix_missing_locations\nincrement_lineno\niter_fields\niter_child_nodes\nget_docstring\n_splitlines_no_ff\n_pad_whitespace\nget_source_segment\nwalk\nNodeVisitor\nNodeTransformer\n_getter\n_setter\n_ABC\n_new\nNum\nStr\nBytes\nNameConstant\nEllipsis\n_const_types\n_const_types_not\n_const_node_type_names\nslice\nIndex\nExtSlice\n_dims_getter\n_dims_setter\nSuite\nAugLoad\nAugStore\nParam\n_INFSTR\n_Precedence\n_SINGLE_QUOTES\n_MULTI_QUOTES\n_ALL_QUOTES\n_Unparser\nunparse\nmain\natexit\n_clear\n_run_exitfuncs\n_ncallbacks\nbase64\nre\nstruct\nbinascii\nbytes_types\n_bytes_from_decode_data\nb64encode\nb64decode\nstandard_b64encode\nstandard_b64decode\n_urlsafe_encode_translation\n_urlsafe_decode_translation\nurlsafe_b64encode\nurlsafe_b64decode\n_B32_ENCODE_DOCSTRING\n_B32_DECODE_DOCSTRING\n_B32_DECODE_MAP01_DOCSTRING\n_b32alphabet\n_b32hexalphabet\n_b32tab2\n_b32rev\n_b32encode\n_b32decode\nb32encode\nb32decode\nb32hexencode\nb32hexdecode\nb16encode\nb16decode\n_a85chars\n_a85chars2\n_A85START\n_A85END\n_85encode\na85encode\na85decode\n_b85alphabet\n_b85chars\n_b85chars2\n_b85dec\nb85encode\nb85decode\nMAXLINESIZE\nMAXBINSIZE\n_input_type_check\nencodebytes\ndecodebytes\ntest\nbdb\nfnmatch\nos\nCO_GENERATOR\nCO_COROUTINE\nCO_ASYNC_GENERATOR\nGENERATOR_AND_COROUTINE_FLAGS\nBdbQuit\nBdb\nset_trace\nBreakpoint\ncheckfuncname\neffective\nTdb\nfoo\nbar\na2b_uu\nb2a_uu\na2b_base64\nb2a_base64\na2b_hex\nb2a_hex\nhexlify\nunhexlify\ncrc_hqx\ncrc32\na2b_qp\nb2a_qp\nIncomplete\nbisect\ninsort\nbuiltins\n__build_class__\nall\nany\nascii\nbin\nbreakpoint\ncallable\nchr\ndelattr\ndir\ndivmod\neval\nexec\nformat\ngetattr\nglobals\nhasattr\nhash\nhex\nid\ninput\nisinstance\nissubclass\niter\naiter\nlen\nlocals\nmax\nmin\nnext\nanext\noct\nord\nprint\nrepr\nround\nsetattr\nsorted\nsum\nvars\nNone\nNotImplemented\nFalse\nTrue\nbool\nmemoryview\nbytearray\nbytes\nclassmethod\ncomplex\ndict\nenumerate\nfilter\nfloat\nfrozenset\nproperty\nint\nlist\nmap\nobject\nrange\nreversed\nset\nstaticmethod\nstr\nsuper\ntuple\ntype\nzip\n__debug__\nBaseException\nBaseExceptionGroup\nException\nGeneratorExit\nKeyboardInterrupt\nSystemExit\nArithmeticError\nAssertionError\nAttributeError\nBufferError\nEOFError\nImportError\nLookupError\nMemoryError\nNameError\nOSError\nReferenceError\nRuntimeError\nStopAsyncIteration\nStopIteration\nSyntaxError\nSystemError\nTypeError\nValueError\nWarning\nFloatingPointError\nOverflowError\nZeroDivisionError\nBytesWarning\nDeprecationWarning\nEncodingWarning\nFutureWarning\nImportWarning\nPendingDeprecationWarning\nResourceWarning\nRuntimeWarning\nSyntaxWarning\nUnicodeWarning\nUserWarning\nChildProcessError\nConnectionError\nFileExistsError\nFileNotFoundError\nInterruptedError\nIsADirectoryError\nNotADirectoryError\nPermissionError\nProcessLookupError\nTimeoutError\nIndentationError\nIndexError\nKeyError\nModuleNotFoundError\nNotImplementedError\nRecursionError\nUnboundLocalError\nUnicodeError\nBrokenPipeError\nConnectionAbortedError\nConnectionRefusedError\nConnectionResetError\nTabError\nUnicodeDecodeError\nUnicodeEncodeError\nUnicodeTranslateError\nExceptionGroup\nEnvironmentError\nIOError\nquit\ncredits\nlicense\nhelp\nbz2\n__author__\n_builtin_open\n_MODE_CLOSED\n_MODE_READ\n_MODE_WRITE\nBZ2File\ncompress\ndecompress\ncalendar\nrepeat\nIllegalMonthError\nIllegalWeekdayError\nJanuary\nFebruary\nmdays\n_localized_month\n_localized_day\nday_name\nday_abbr\nmonth_name\nmonth_abbr\nMONDAY\nTUESDAY\nWEDNESDAY\nTHURSDAY\nFRIDAY\nSATURDAY\nSUNDAY\nisleap\nleapdays\nweekday\nmonthrange\n_monthlen\n_prevmonth\n_nextmonth\nCalendar\nTextCalendar\nHTMLCalendar\ndifferent_locale\n_get_default_locale\nLocaleTextCalendar\nLocaleHTMLCalendar\nc\nfirstweekday\nsetfirstweekday\nmonthcalendar\nprweek\nweek\nweekheader\nprmonth\nmonth\nprcal\n_colwidth\n_spacing\nformatstring\nEPOCH\n_EPOCH_ORD\ntimegm\ncmath\nacos\nacosh\nasin\nasinh\natan\natanh\ncos\ncosh\nexp\nisclose\nisfinite\nisinf\nisnan\nlog\nlog10\nphase\npolar\nrect\nsin\nsinh\nsqrt\ntan\ntanh\npi\ne\ntau\ninf\ninfj\nnan\nnanj\ncmd\nstring\nPROMPT\nIDENTCHARS\nCmd\ncode\ntraceback\nCommandCompiler\ncompile_command\nInteractiveInterpreter\nInteractiveConsole\ninteract\ncodecs\nBOM_UTF8\nBOM_LE\nBOM_UTF16_LE\nBOM_BE\nBOM_UTF16_BE\nBOM_UTF32_LE\nBOM_UTF32_BE\nBOM\nBOM_UTF16\nBOM_UTF32\nBOM32_LE\nBOM32_BE\nBOM64_LE\nBOM64_BE\nCodecInfo\nCodec\nIncrementalEncoder\nBufferedIncrementalEncoder\nIncrementalDecoder\nBufferedIncrementalDecoder\nStreamWriter\nStreamReader\nStreamReaderWriter\nStreamRecoder\nEncodedFile\ngetencoder\ngetdecoder\ngetincrementalencoder\ngetincrementaldecoder\ngetreader\ngetwriter\niterencode\niterdecode\nmake_identity_dict\nmake_encoding_map\nstrict_errors\nignore_errors\nreplace_errors\nxmlcharrefreplace_errors\nbackslashreplace_errors\nnamereplace_errors\n_false\ncodeop\n_features\nPyCF_DONT_IMPLY_DEDENT\nPyCF_ALLOW_INCOMPLETE_INPUT\n_maybe_compile\n_is_syntax_error\n_compile\nCompile\ncollections\n__path__\n_collections_abc\n_chain\n_repeat\n_starmap\n_iskeyword\n_eq\n_itemgetter\n_recursive_repr\n_proxy\n_OrderedDictKeysView\n_OrderedDictItemsView\n_OrderedDictValuesView\n_Link\nnamedtuple\nCounter\nChainMap\nUserDict\nUserList\nUserString\ncolorsys\nONE_THIRD\nONE_SIXTH\nTWO_THIRD\nrgb_to_yiq\nyiq_to_rgb\nrgb_to_hls\nhls_to_rgb\n_v\nrgb_to_hsv\nhsv_to_rgb\nconcurrent\nfutures\nconcurrent.futures\n_base\nFIRST_COMPLETED\nFIRST_EXCEPTION\nALL_COMPLETED\nCancelledError\nInvalidStateError\nBrokenExecutor\nFuture\nExecutor\nwait\nas_completed\n__dir__\n__getattr__\nprocess\nProcessPoolExecutor\nthread\nThreadPoolExecutor\nconcurrent.futures._base\nlogging\nthreading\ntypes\n_AS_COMPLETED\nPENDING\nRUNNING\nCANCELLED\nCANCELLED_AND_NOTIFIED\nFINISHED\n_FUTURE_STATES\n_STATE_TO_DESCRIPTION_MAP\nLOGGER\n_Waiter\n_AsCompletedWaiter\n_FirstCompletedWaiter\n_AllCompletedWaiter\n_AcquireFutures\n_create_and_install_waiters\n_yield_finished_futures\nDoneAndNotDoneFutures\n_result_or_cancel\nconcurrent.futures.process\nqueue\nmp\nmultiprocessing\nQueue\nweakref\nitertools\nformat_exception\n_threads_wakeups\n_global_shutdown\n_ThreadWakeup\n_python_exit\nEXTRA_QUEUED_CALLS\n_MAX_WINDOWS_WORKERS\n_RemoteTraceback\n_ExceptionWithTraceback\n_rebuild_exc\n_WorkItem\n_ResultItem\n_CallItem\n_SafeQueue\n_get_chunks\n_process_chunk\n_sendback_result\n_process_worker\n_ExecutorManagerThread\n_system_limits_checked\n_system_limited\n_check_system_limits\n_chain_from_iterable_of_lists\nBrokenProcessPool\nconcurrent.futures.thread\n_threads_queues\n_shutdown\n_global_shutdown_lock\n_worker\nBrokenThreadPool\nconfigparser\n_ChainMap\nfunctools\n_default_dict\nDEFAULTSECT\nMAX_INTERPOLATION_DEPTH\nNoSectionError\nDuplicateSectionError\nDuplicateOptionError\nNoOptionError\nInterpolationError\nInterpolationMissingOptionError\nInterpolationSyntaxError\nInterpolationDepthError\nParsingError\nMissingSectionHeaderError\n_UNSET\nInterpolation\nBasicInterpolation\nExtendedInterpolation\nLegacyInterpolation\nRawConfigParser\nConfigParser\nSafeConfigParser\nSectionProxy\nConverterMapping\ncontextlib\nwraps\nMethodType\nAbstractContextManager\nAbstractAsyncContextManager\nContextDecorator\nAsyncContextDecorator\n_GeneratorContextManagerBase\n_GeneratorContextManager\n_AsyncGeneratorContextManager\nasynccontextmanager\nclosing\naclosing\n_RedirectStream\nredirect_stdout\nredirect_stderr\nsuppress\n_BaseExitStack\nExitStack\nAsyncExitStack\nchdir\ncontextvars\ncopy\ndispatch_table\n_copy_dispatch\n_copy_immutable\ndeepcopy\n_deepcopy_dispatch\n_deepcopy_atomic\n_deepcopy_list\n_deepcopy_tuple\n_deepcopy_dict\n_deepcopy_method\n_keep_alive\n_reconstruct\ncopyreg\npickle\nconstructor\npickle_complex\npickle_union\n_reconstructor\n_HEAPTYPE\n_new_type\n_reduce_ex\n__newobj__\n__newobj_ex__\n_slotnames\n_extension_registry\n_inverted_registry\n_extension_cache\nadd_extension\nremove_extension\nclear_extension_cache\ncsv\n_Dialect\nexcel\nexcel_tab\nunix_dialect\nDictReader\nDictWriter\nSniffer\nctypes\n_types\n_CFuncPtr\n_ctypes_version\n_calcsize\nDEFAULT_MODE\n_FUNCFLAG_CDECL\n_FUNCFLAG_PYTHONAPI\n_FUNCFLAG_USE_ERRNO\n_FUNCFLAG_USE_LASTERROR\ncreate_string_buffer\nc_buffer\n_c_functype_cache\nCFUNCTYPE\n_dlopen\n_check_size\npy_object\nc_short\nc_ushort\nc_long\nc_ulong\nc_int\nc_uint\nc_float\nc_double\nc_longdouble\nc_longlong\nc_ulonglong\nc_ubyte\nc_byte\nc_char\nc_char_p\nc_void_p\nc_voidp\nc_bool\nc_wchar_p\nc_wchar\n_reset_cache\ncreate_unicode_buffer\nSetPointerType\nARRAY\nCDLL\nPyDLL\nLibraryLoader\ncdll\npydll\npythonapi\nc_size_t\nc_ssize_t\nmemmove\nmemset\nPYFUNCTYPE\n_cast\ncast\n_string_at\nstring_at\n_wstring_at\nwstring_at\n_endian\nBigEndianStructure\nLittleEndianStructure\nBigEndianUnion\nLittleEndianUnion\nc_int8\nc_uint8\nc_int16\nc_int32\nc_int64\nc_uint16\nc_uint32\nc_uint64\nctypes._endian\n_array_type\n_other_endian\n_swapped_meta\n_swapped_struct_meta\n_swapped_union_meta\n_OTHER_ENDIAN\ndataclasses\ninspect\nFrozenInstanceError\n_HAS_DEFAULT_FACTORY_CLASS\n_HAS_DEFAULT_FACTORY\n_MISSING_TYPE\nMISSING\n_KW_ONLY_TYPE\nKW_ONLY\n_EMPTY_METADATA\n_FIELD_BASE\n_FIELD\n_FIELD_CLASSVAR\n_FIELD_INITVAR\n_FIELDS\n_PARAMS\n_POST_INIT_NAME\n_MODULE_IDENTIFIER_RE\nInitVar\nField\n_DataclassParams\nfield\n_fields_in_init_order\n_tuple_str\n_create_fn\n_field_assign\n_field_init\n_init_param\n_init_fn\n_repr_fn\n_frozen_get_del_attr\n_cmp_fn\n_hash_fn\n_is_classvar\n_is_initvar\n_is_kw_only\n_is_type\n_get_field\n_set_qualname\n_set_new_attribute\n_hash_set_none\n_hash_add\n_hash_exception\n_hash_action\n_process_class\n_dataclass_getstate\n_dataclass_setstate\n_get_slots\n_add_slots\ndataclass\nfields\n_is_dataclass_instance\nis_dataclass\nasdict\n_asdict_inner\nastuple\n_astuple_inner\nmake_dataclass\nreplace\ndifflib\n_nlargest\n_namedtuple\n_calculate_ratio\nSequenceMatcher\nget_close_matches\n_keep_original_ws\nDiffer\nIS_LINE_JUNK\nIS_CHARACTER_JUNK\n_format_range_unified\nunified_diff\n_format_range_context\ncontext_diff\n_check_types\ndiff_bytes\nndiff\n_mdiff\n_file_template\n_styles\n_table_template\n_legend\nHtmlDiff\nrestore\n_test\ndis\ncmp_op\nhasconst\nhasname\nhasjrel\nhasjabs\nhaslocal\nhascompare\nhasfree\nopname\nopmap\nHAVE_ARGUMENT\nEXTENDED_ARG\nhasnargs\n_cache_format\n_inline_cache_entries\n_nb_ops\n_specializations\n_specialized_instructions\n_have_code\nFORMAT_VALUE\nFORMAT_VALUE_CONVERTERS\nMAKE_FUNCTION\nMAKE_FUNCTION_FLAGS\nLOAD_CONST\nLOAD_GLOBAL\nBINARY_OP\nJUMP_BACKWARD\nCACHE\n_all_opname\n_all_opmap\n_empty_slot\nspec_op\nspecialized\ndeoptmap\n_try_compile\ndistb\nCOMPILER_FLAG_NAMES\npretty_flags\n_Unknown\nUNKNOWN\n_get_code_object\n_deoptop\n_get_code_array\ncode_info\n_format_code_info\nshow_code\nPositions\n_Instruction\n_ExceptionTableEntry\n_OPNAME_WIDTH\n_OPARG_WIDTH\nInstruction\nget_instructions\n_get_const_value\n_get_const_info\n_get_name_info\n_parse_varint\n_parse_exception_table\n_is_backward_jump\n_get_instructions_bytes\ndisassemble\n_disassemble_recursive\n_disassemble_bytes\n_disassemble_str\ndisco\n_INT_BITS\n_INT_OVERFLOW\n_unpack_opargs\nfindlabels\nfindlinestarts\n_find_imports\n_find_store_names\nBytecode\nemail\nmessage_from_string\nmessage_from_bytes\nmessage_from_file\nmessage_from_binary_file\n_parseaddr\nbase64mime\nquoprimime\nerrors\nencoders\ncharset\nutils\nheader\n_policybase\n_encoded_words\niterators\nmessage\nemail._encoded_words\nascii_letters\ndigits\n_q_byte_subber\ndecode_q\n_QByteMap\n_q_byte_map\nencode_q\nlen_q\ndecode_b\nencode_b\nlen_b\n_cte_decoders\n_cte_encoders\n_cte_encode_length\nemail._parseaddr\nSPACE\nEMPTYSTRING\nCOMMASPACE\n_monthnames\n_daynames\n_timezones\nparsedate_tz\n_parsedate_tz\nparsedate\nmktime_tz\nquote\nAddrlistClass\nAddressList\nemail._policybase\n_charset\n_has_surrogates\n_PolicyBase\n_append_doc\n_extend_docstrings\nPolicy\nCompat32\ncompat32\nemail.base64mime\nCRLF\nNL\nMISC_LEN\nheader_length\nheader_encode\nbody_encode\nbody_decode\ndecodestring\nemail.charset\nencode_7or8bit\nQP\nBASE64\nSHORTEST\nRFC2047_CHROME_LEN\nDEFAULT_CHARSET\nUNKNOWN8BIT\nCHARSETS\nALIASES\nCODEC_MAP\nadd_charset\nadd_alias\nadd_codec\n_encode\nCharset\nemail.encoders\n_bencode\n_encodestring\n_qencode\nencode_base64\nencode_quopri\nencode_noop\nemail.errors\nMessageError\nMessageParseError\nHeaderParseError\nBoundaryError\nMultipartConversionError\nCharsetError\nHeaderWriteError\nMessageDefect\nNoBoundaryInMultipartDefect\nStartBoundaryNotFoundDefect\nCloseBoundaryNotFoundDefect\nFirstHeaderLineIsContinuationDefect\nMisplacedEnvelopeHeaderDefect\nMissingHeaderBodySeparatorDefect\nMalformedHeaderDefect\nMultipartInvariantViolationDefect\nInvalidMultipartContentTransferEncodingDefect\nUndecodableBytesDefect\nInvalidBase64PaddingDefect\nInvalidBase64CharactersDefect\nInvalidBase64LengthDefect\nHeaderDefect\nInvalidHeaderDefect\nHeaderMissingRequiredValue\nNonPrintableDefect\nObsoleteHeaderDefect\nNonASCIILocalPartDefect\nInvalidDateDefect\nemail.header\nBSPACE\nSPACE8\nMAXLINELEN\nFWS\nUSASCII\nUTF8\necre\nfcre\n_embedded_header\n_max_append\ndecode_header\nmake_header\nHeader\n_ValueFormatter\n_Accumulator\nemail.iterators\nbody_line_iterator\ntyped_subpart_iterator\n_structure\nemail.message\nquopri\nSEMISPACE\ntspecials\n_splitparam\n_formatparam\n_parseparam\n_unquotevalue\n_decode_uu\nMessage\nMIMEPart\nEmailMessage\nemail.quoprimime\nhexdigits\n_QUOPRI_MAP\n_QUOPRI_HEADER_MAP\n_QUOPRI_BODY_MAP\nheader_check\nbody_check\nbody_length\nunquote\n_QUOPRI_BODY_ENCODE_MAP\n_unquote_match\nheader_decode\nemail.utils\nrandom\nurllib\n_AddressList\nUEMPTYSTRING\nTICK\nspecialsre\nescapesre\n_sanitize\nformataddr\ngetaddresses\n_check_parenthesis\n_format_timetuple_and_zone\nformatdate\nformat_datetime\nmake_msgid\nparsedate_to_datetime\nparseaddr\ndecode_rfc2231\nencode_rfc2231\nrfc2231_continuation\ndecode_params\ncollapse_rfc2231_value\nlocaltime\nencodings\naliases\n_cache\n_unknown\n_import_tail\n_aliases\nCodecRegistryError\nnormalize_encoding\nsearch_function\nutf_8\nencodings.aliases\nencodings.utf_8\ngetregentry\nenum\nbltns\nMappingProxyType\nDynamicClassAttribute\n_or_\nEnum\nFlag\nEJECT\n_stdlib_enums\nReprEnum\nnonmember\nmember\n_is_descriptor\n_is_dunder\n_is_sunder\n_is_internal_class\n_is_private\n_is_single_bit\n_make_class_unpicklable\n_iter_bits_lsb\nshow_flag_values\n_dedent\n_auto_null\n_proto_member\n_EnumDict\nEnumType\nEnumMeta\nStrEnum\n_reduce_ex_by_global_name\nFlagBoundary\nSTRICT\nCONFORM\nKEEP\nIntFlag\n_high_bit\nunique\n_power_of_two\nglobal_enum_repr\nglobal_flag_repr\nglobal_str\nglobal_enum\nEnumCheck\nCONTINUOUS\nNAMED_FLAGS\nUNIQUE\nverify\n_test_simple_enum\n_old_convert_\nerrno\nerrorcode\nENODEV\nENOCSI\nEHOSTUNREACH\nENOMSG\nEUCLEAN\nEL2NSYNC\nEL2HLT\nENODATA\nENOTBLK\nENOSYS\nEPIPE\nEINVAL\nEOVERFLOW\nEADV\nEINTR\nEUSERS\nENOTEMPTY\nENOBUFS\nEPROTO\nEREMOTE\nENAVAIL\nECHILD\nELOOP\nEXDEV\nE2BIG\nESRCH\nEMSGSIZE\nEAFNOSUPPORT\nEBADR\nEHOSTDOWN\nEPFNOSUPPORT\nENOPROTOOPT\nEBUSY\nEWOULDBLOCK\nEBADFD\nEDOTDOT\nEISCONN\nENOANO\nESHUTDOWN\nECHRNG\nELIBBAD\nENONET\nEBADE\nEBADF\nEMULTIHOP\nEIO\nEUNATCH\nEPROTOTYPE\nENOSPC\nENOEXEC\nEALREADY\nENETDOWN\nENOTNAM\nEACCES\nELNRNG\nEILSEQ\nENOTDIR\nENOTUNIQ\nEPERM\nEDOM\nEXFULL\nECONNREFUSED\nEISDIR\nEPROTONOSUPPORT\nEROFS\nEADDRNOTAVAIL\nEIDRM\nECOMM\nESRMNT\nEREMOTEIO\nEL3RST\nEBADMSG\nENFILE\nELIBMAX\nESPIPE\nENOLINK\nENETRESET\nETIMEDOUT\nENOENT\nEEXIST\nEDQUOT\nENOSTR\nEBADSLT\nEBADRQC\nELIBACC\nEFAULT\nEFBIG\nEDEADLK\nENOTCONN\nEDESTADDRREQ\nELIBSCN\nENOLCK\nEISNAM\nECONNABORTED\nENETUNREACH\nESTALE\nENOSR\nENOMEM\nENOTSOCK\nESTRPIPE\nEMLINK\nERANGE\nELIBEXEC\nEL3HLT\nECONNRESET\nEADDRINUSE\nEOPNOTSUPP\nEREMCHG\nEAGAIN\nENAMETOOLONG\nENOTTY\nERESTART\nESOCKTNOSUPPORT\nETIME\nEBFONT\nEDEADLOCK\nETOOMANYREFS\nEMFILE\nETXTBSY\nEINPROGRESS\nENXIO\nENOPKG\nENOMEDIUM\nEMEDIUMTYPE\nECANCELED\nENOKEY\nEKEYEXPIRED\nEKEYREVOKED\nEKEYREJECTED\nEOWNERDEAD\nENOTRECOVERABLE\nERFKILL\nENOTSUP\nfcntl\nioctl\nflock\nlockf\nLOCK_SH\nLOCK_EX\nLOCK_NB\nLOCK_UN\nLOCK_MAND\nLOCK_READ\nLOCK_WRITE\nLOCK_RW\nF_DUPFD\nF_DUPFD_CLOEXEC\nF_GETFD\nF_SETFD\nF_GETFL\nF_SETFL\nF_GETLK\nF_SETLK\nF_SETLKW\nF_GETOWN\nF_SETOWN\nF_GETSIG\nF_SETSIG\nF_RDLCK\nF_WRLCK\nF_UNLCK\nF_GETLK64\nF_SETLK64\nF_SETLKW64\nFASYNC\nF_SETLEASE\nF_GETLEASE\nF_NOTIFY\nF_EXLCK\nF_SHLCK\nF_SETPIPE_SZ\nF_GETPIPE_SZ\nFD_CLOEXEC\nDN_ACCESS\nDN_MODIFY\nDN_CREATE\nDN_DELETE\nDN_RENAME\nDN_ATTRIB\nDN_MULTISHOT\nI_PUSH\nI_POP\nI_LOOK\nI_FLUSH\nI_FLUSHBAND\nI_SETSIG\nI_GETSIG\nI_FIND\nI_PEEK\nI_SRDOPT\nI_GRDOPT\nI_NREAD\nI_FDINSERT\nI_STR\nI_SWROPT\nI_GWROPT\nI_SENDFD\nI_RECVFD\nI_LIST\nI_ATMARK\nI_CKBAND\nI_GETBAND\nI_CANPUT\nI_SETCLTIME\nI_GETCLTIME\nI_LINK\nI_UNLINK\nI_PLINK\nI_PUNLINK\nfilecmp\nstat\nfilterfalse\nBUFSIZE\nDEFAULT_IGNORES\nclear_cache\ncmp\n_sig\n_do_cmp\ndircmp\ncmpfiles\n_cmp\n_filter\ndemo\nfileinput\n_state\nnextfile\nfilename\nlineno\nfilelineno\nfileno\nisfirstline\nisstdin\nFileInput\nhook_compressed\nhook_encoded\nposixpath\n_compile_pattern\nfnmatchcase\ntranslate\nfractions\nmath\nnumbers\n_PyHASH_MODULUS\n_PyHASH_INF\n_RATIONAL_FORMAT\nFraction\nrecursive_repr\nWRAPPER_ASSIGNMENTS\nWRAPPER_UPDATES\nupdate_wrapper\n_gt_from_lt\n_le_from_lt\n_ge_from_lt\n_ge_from_le\n_lt_from_le\n_gt_from_le\n_lt_from_gt\n_ge_from_gt\n_le_from_gt\n_le_from_ge\n_gt_from_ge\n_lt_from_ge\n_convert\ntotal_ordering\n_initial_missing\npartialmethod\n_unwrap_partial\n_CacheInfo\n_HashedSeq\n_make_key\nlru_cache\ncache\n_c3_merge\n_c3_mro\n_compose_mro\n_find_impl\nsingledispatch\nsingledispatchmethod\n_NOT_FOUND\ncached_property\ngc\nenable\ndisable\nisenabled\nset_debug\nget_debug\nget_count\nset_threshold\nget_threshold\ncollect\nget_objects\nget_stats\nis_tracked\nis_finalized\nget_referrers\nget_referents\nfreeze\nunfreeze\nget_freeze_count\ngarbage\ncallbacks\nDEBUG_STATS\nDEBUG_COLLECTABLE\nDEBUG_UNCOLLECTABLE\nDEBUG_SAVEALL\nDEBUG_LEAK\ngenericpath\nexists\nisfile\nisdir\ngetsize\ngetmtime\ngetatime\ngetctime\ncommonprefix\nsamestat\nsamefile\nsameopenfile\n_splitext\n_check_arg_types\ngetopt\nGetoptError\ngnu_getopt\ndo_longs\nlong_has_args\ndo_shorts\nshort_has_arg\ngetpass\nGetPassWarning\nunix_getpass\nwin_getpass\nfallback_getpass\n_raw_input\ngetuser\ntermios\n_default_localedir\n_token_pattern\n_tokenize\n_error\n_binary_ops\n_c2py_ops\n_parse\n_as_int\nc2py\n_expand_lang\nNullTranslations\nGNUTranslations\nfind\n_translations\ntranslation\ninstall\n_localedirs\n_current_domain\ndngettext\ndpgettext\ndnpgettext\npgettext\nnpgettext\nCatalog\nglob\niglob\n_iglob\n_glob1\n_glob0\nglob0\nglob1\n_glob2\n_iterdir\n_listdir\n_rlistdir\n_lexists\n_isdir\n_join\nmagic_check\nmagic_check_bytes\nhas_magic\n_ishidden\n_isrecursive\nescape\n_dir_open_flags\ngraphlib\n_NODE_OUT\n_NODE_DONE\n_NodeInfo\nCycleError\nTopologicalSorter\ngzip\nzlib\nFTEXT\nFHCRC\nFEXTRA\nFNAME\nFCOMMENT\nREAD\nWRITE\n_COMPRESS_LEVEL_FAST\n_COMPRESS_LEVEL_TRADEOFF\n_COMPRESS_LEVEL_BEST\nwrite32u\n_PaddedFile\nBadGzipFile\nGzipFile\n_read_exact\n_read_gzip_header\n_GzipReader\n_create_simple_gzip_header\nhashlib\nalgorithms_guaranteed\nalgorithms_available\n__builtin_constructor_cache\n__block_openssl_constructor\n__get_builtin_constructor\nfile_digest\nmd5\nsha1\nsha224\nsha256\nsha3_224\nsha3_256\nsha3_384\nsha3_512\nshake_128\nshake_256\nheapq\n_siftdown\n_siftup\n_siftdown_max\n_siftup_max\nmerge\nnsmallest\nnlargest\nhmac\n_hashopenssl\n_functype\ntrans_5C\ntrans_36\ndigest_size\ndigest\nhtml\nentities\n_html5\n_invalid_charrefs\n_invalid_codepoints\n_replace_charref\n_charref\nunescape\nparser\nhtml.entities\nname2codepoint\nhtml5\ncodepoint2name\nentitydefs\nhtml.parser\ninteresting_normal\nincomplete\nentityref\ncharref\nstarttagopen\npiclose\ncommentclose\ntagfind_tolerant\nattrfind_tolerant\nlocatestarttagend_tolerant\nendendtag\nendtagfind\nHTMLParser\nhttp\nHTTPStatus\nHTTPMethod\nimportlib\ninvalidate_caches\nfind_loader\nimport_module\n_RELOADING\nreload\nmachinery\nresources\nutil\nmetadata\nimportlib._abc\nLoader\nimportlib.abc\n_frozen_importlib\n_frozen_importlib_external\nResourceReader\nTraversable\nTraversableResources\n_register\nFinder\nMetaPathFinder\nPathEntryFinder\nResourceLoader\nInspectLoader\nExecutionLoader\nimportlib.machinery\nall_suffixes\nimportlib.metadata\npathlib\nzipfile\ntextwrap\n_text\n_adapters\n_meta\nFreezableDefaultDict\nPair\nmethod_cache\npass_none\n_itertools\nalways_iterable\nunique_everseen\nPackageMetadata\nSimplePath\nstarmap\nOptional\nPackageNotFoundError\nSectioned\nDeprecatedTuple\nEntryPoint\nDeprecatedList\nEntryPoints\nDeprecated\nSelectableGroups\nPackagePath\nFileHash\nDistribution\nDistributionFinder\nFastPath\nLookup\nPrepared\nMetadataPathFinder\nPathDistribution\ndistribution\ndistributions\nversion\n_unique\nentry_points\nfiles\nrequires\npackages_distributions\n_top_level_declared\n_top_level_inferred\nimportlib.metadata._adapters\nFoldedCase\nimportlib.metadata._collections\nimportlib.metadata._functools\nimportlib.metadata._itertools\nimportlib.metadata._meta\nAny\nProtocol\nTypeVar\n_T\nimportlib.metadata._text\nimportlib.resources\n_common\nas_file\nPackage\n_legacy\ncontents\nopen_binary\nread_binary\nopen_text\nread_text\nis_resource\npath\nResource\nimportlib.resources._adapters\nSpecLoaderAdapter\nTraversableResourcesLoader\n_io_wrapper\nCompatibilityFiles\nwrap_spec\nimportlib.resources._common\ntempfile\nget_resource_reader\nresolve\nget_package\nfrom_package\n_tempfile\nimportlib.resources._legacy\nContextManager\nBinaryIO\nTextIO\ndeprecated\nnormalize_path\nimportlib.resources.abc\nNoReturn\nText\nruntime_checkable\nStrPath\nimportlib.util\nresolve_name\n_find_spec_from_path\nfind_spec\n_module_to_load\nset_package\nset_loader\nmodule_for_loader\n_LazyModule\nLazyLoader\nlinecache\ntokenize\ntoken\niskeyword\nCO_OPTIMIZED\nCO_NEWLOCALS\nCO_VARARGS\nCO_VARKEYWORDS\nCO_NOFREE\nCO_ITERABLE_COROUTINE\nTPFLAGS_IS_ABSTRACT\nget_annotations\nismodule\nisclass\nismethod\nismethoddescriptor\nisdatadescriptor\nismemberdescriptor\nisgetsetdescriptor\nisfunction\n_has_code_flag\nisgeneratorfunction\niscoroutinefunction\nisasyncgenfunction\nisasyncgen\nisgenerator\niscoroutine\nisawaitable\nistraceback\nisframe\niscode\nisbuiltin\nismethodwrapper\nisroutine\nisabstract\n_getmembers\ngetmembers\ngetmembers_static\nclassify_class_attrs\ngetmro\nunwrap\nindentsize\n_findclass\n_finddoc\ngetdoc\ncleandoc\ngetfile\ngetmodulename\ngetsourcefile\ngetabsfile\nmodulesbyfile\n_filesbymodname\ngetmodule\nClassFoundException\n_ClassFinder\nfindsource\ngetcomments\nEndOfBlock\nBlockFinder\ngetblock\ngetsourcelines\ngetsource\nwalktree\ngetclasstree\nArguments\ngetargs\nFullArgSpec\ngetfullargspec\nArgInfo\ngetargvalues\nformatannotation\nformatannotationrelativeto\nformatargvalues\n_missing_arguments\n_too_many\ngetcallargs\nClosureVars\ngetclosurevars\n_Traceback\nTraceback\n_get_code_position_from_tb\n_get_code_position\ngetframeinfo\ngetlineno\n_FrameInfo\nFrameInfo\ngetouterframes\ngetinnerframes\ncurrentframe\nstack\ntrace\n_sentinel\n_static_getmro\n_check_instance\n_check_class\n_shadowed_dict\ngetattr_static\nGEN_CREATED\nGEN_RUNNING\nGEN_SUSPENDED\nGEN_CLOSED\ngetgeneratorstate\ngetgeneratorlocals\nCORO_CREATED\nCORO_RUNNING\nCORO_SUSPENDED\nCORO_CLOSED\ngetcoroutinestate\ngetcoroutinelocals\n_NonUserDefinedCallables\n_signature_get_user_defined_method\n_signature_get_partial\n_signature_bound_method\n_signature_is_builtin\n_signature_is_functionlike\n_signature_strip_non_python_syntax\n_signature_fromstr\n_signature_from_builtin\n_signature_from_function\n_descriptor_get\n_signature_from_callable\n_void\n_empty\n_ParameterKind\n_POSITIONAL_ONLY\n_POSITIONAL_OR_KEYWORD\n_VAR_POSITIONAL\n_KEYWORD_ONLY\n_VAR_KEYWORD\nParameter\nBoundArguments\nSignature\nsignature\n_main\nSEEK_SET\nSEEK_CUR\nSEEK_END\nIOBase\nRawIOBase\nBufferedIOBase\nTextIOBase\nipaddress\nIPV4LENGTH\nIPV6LENGTH\nAddressValueError\nNetmaskValueError\nip_address\nip_network\nip_interface\nv4_int_to_packed\nv6_int_to_packed\n_split_optional_netmask\n_find_address_range\n_count_righthand_zero_bits\nsummarize_address_range\n_collapse_addresses_internal\ncollapse_addresses\nget_mixed_type_key\n_IPAddressBase\n_address_fmt_re\n_BaseAddress\n_BaseNetwork\n_BaseConstants\n_BaseV4\nIPv4Address\nIPv4Interface\nIPv4Network\n_IPv4Constants\n_BaseV6\nIPv6Address\nIPv6Interface\nIPv6Network\n_IPv6Constants\ntee\naccumulate\ncombinations\ncombinations_with_replacement\ncycle\ndropwhile\ntakewhile\nislice\nchain\ncount\nzip_longest\npairwise\npermutations\nproduct\ngroupby\n_grouper\n_tee\n_tee_dataobject\njj_cli\nexceptions\ncapabilities\nCapability\nCapabilitySet\nCatalogError\nCommandError\nDispatchError\nInternalError\nJjCliError\nUnknownCommandError\nUsageError\npresentation\nHelpCategory\nPresentation\nStyles\nui\nUi\nconfig\ncli\njj_cli.capabilities\n__annotations__\nConfigError\nlogger\nFEATURES_ENV_VAR\nDEFAULT_FEATURES\nresolve_capabilities\nactive_capabilities\njj_cli.cli\nPath\ncommand_protocol\ncatalog\nCommandDescriptor\ncommand\nCommand\ncontext\nInvocationContext\ndeprecation\nrenamed_command\ndispatch\nSchema\nbuild_schema\nstyled_help\nregistry\ndiscover_handlers\nget_load_failures\nprint_error\nConfig\nenable_verbose\nEXIT_FAILURE\nEXIT_USAGE\nEXIT_BUG\n_print_usage_error\ncommands\n__main__\njj_cli.cli.__main__\njj_cli.cli.catalog\nArgsSchema\nHandler\nNAME_PATTERN\njj_cli.cli.command\nTYPE_CHECKING\nCOMMAND_NAME_ATTR\njj_cli.cli.command_protocol\nClassVar\nparser_options\nRawArgs\nNoArgs\njj_cli.cli.commands\nHelpArgs\ncmd_help\ncmd_version\nREFERENCE_COMMANDS\nmissing_handler\ndefault_catalog\njj_cli.cli.commands.help\njj_cli.cli.commands.version\njj_cli.cli.context\njj_cli.cli.deprecation\njj_cli.cli.dispatch\n_handler_name\njj_cli.cli.parser\nIO\nDEFAULT_PRESENTATION\nCOLOR_CHOICES\nmake_console\nDESCRIPTION\nEPILOG\n_INVALID_COMMAND\nCommandParser\nColorAction\n_listing_rows\njj_cli.cli.registry\nENTRY_POINT_GROUP\n_registry\n_failures\nget_registry\njj_cli.cli.utils\n_error_console\nget_error_console\nformat_error\njj_cli.config\ntomllib\nCONFIG_FILENAMES\nUSER_CONFIG_PATH\nREPO_MARKERS\nKNOWN_KEYS\nCOLOR_VALUES\nLOG_LEVELS\nUiConfig\nLoggingConfig\n_find_repo_config\n_load_toml_file\n_merge_config\n_warn_unknown_keys\njj_cli.exceptions\njj_cli.logging\n_logger\nDEFAULT_FORMAT\ndisable_verbose\njj_cli.presentation\njj_cli.ui\nLiteral\nConsole\nColorChoice\njson\nscanner\ndecoder\nJSONDecoder\nJSONDecodeError\nencoder\nJSONEncoder\n_default_encoder\n_default_decoder\ndetect_encoding\njson.decoder\nc_scanstring\nFLAGS\nNaN\nPosInf\nNegInf\n_CONSTANTS\nSTRINGCHUNK\nBACKSLASH\n_decode_uXXXX\npy_scanstring\nWHITESPACE\nWHITESPACE_STR\nJSONObject\nJSONArray\njson.encoder\nc_encode_basestring_ascii\nc_encode_basestring\nc_make_encoder\nESCAPE\nESCAPE_ASCII\nHAS_UTF8\nESCAPE_DCT\nINFINITY\npy_encode_basestring\npy_encode_basestring_ascii\n_make_iterencode\njson.scanner\nc_make_scanner\nNUMBER_RE\npy_make_scanner\nkwlist\nsoftkwlist\nissoftkeyword\nclearcache\ngetline\ngetlines\ncheckcache\nupdatecache\nlazycache\nlocale\n_builtin_str\n_strcoll\n_strxfrm\n_localeconv\n_override_localeconv\n_grouping_intervals\n_group\n_strip_padding\n_percent_re\n_format\n_localize\nformat_string\ncurrency\ndelocalize\nlocalize\natof\natoi\n_setlocale\n_replace_encoding\n_append_modifier\nnormalize\n_parse_localename\n_build_localename\ngetdefaultlocale\ngetlocale\nresetlocale\ngetpreferredencoding\nlocale_encoding_alias\nlocale_alias\nwindows_locale\n_print_locale\nTemplate\n__status__\n__date__\n_startTime\nraiseExceptions\nlogThreads\nlogMultiprocessing\nlogProcesses\nCRITICAL\nFATAL\nERROR\nWARNING\nWARN\nINFO\nDEBUG\nNOTSET\n_levelToName\n_nameToLevel\ngetLevelNamesMapping\ngetLevelName\naddLevelName\n_srcfile\n_is_internal_frame\n_checkLevel\n_lock\n_acquireLock\n_releaseLock\n_at_fork_reinit_lock_weakset\n_register_at_fork_reinit_lock\n_after_at_fork_child_reinit_locks\nLogRecord\n_logRecordFactory\nsetLogRecordFactory\ngetLogRecordFactory\nmakeLogRecord\n_str_formatter\nPercentStyle\nStrFormatStyle\nStringTemplateStyle\nBASIC_FORMAT\n_STYLES\nFormatter\n_defaultFormatter\nBufferingFormatter\nFilter\nFilterer\n_handlers\n_handlerList\n_removeHandlerRef\n_addHandlerRef\nStreamHandler\nFileHandler\n_StderrHandler\n_defaultLastResort\nlastResort\nPlaceHolder\nsetLoggerClass\ngetLoggerClass\nManager\nLogger\nRootLogger\n_loggerClass\nLoggerAdapter\nroot\nbasicConfig\ngetLogger\ncritical\nfatal\nexception\nwarning\ninfo\ndebug\nshutdown\nNullHandler\n_warnings_showwarning\n_showwarning\ncaptureWarnings\nhandlers\nlogging.config\nThreadingTCPServer\nStreamRequestHandler\nDEFAULT_LOGGING_CONFIG_PORT\nRESET_ERROR\n_listener\nfileConfig\n_resolve\n_strip_spaces\n_create_formatters\n_install_handlers\n_handle_existing_loggers\n_install_loggers\n_clearExistingHandlers\nIDENTIFIER\nvalid_ident\nConvertingMixin\nConvertingDict\nConvertingList\nConvertingTuple\nBaseConfigurator\nDictConfigurator\ndictConfigClass\ndictConfig\nlisten\nstopListening\nlogging.handlers\nDEFAULT_TCP_LOGGING_PORT\nDEFAULT_UDP_LOGGING_PORT\nDEFAULT_HTTP_LOGGING_PORT\nDEFAULT_SOAP_LOGGING_PORT\nSYSLOG_UDP_PORT\nSYSLOG_TCP_PORT\n_MIDNIGHT\nBaseRotatingHandler\nRotatingFileHandler\nTimedRotatingFileHandler\nWatchedFileHandler\nSocketHandler\nDatagramHandler\nSysLogHandler\nSMTPHandler\nNTEventLogHandler\nHTTPHandler\nBufferingHandler\nMemoryHandler\nQueueHandler\nQueueListener\nlzma\nLZMAFile\natan2\ncbrt\nceil\ncopysign\ndegrees\ndist\nerf\nerfc\nexp2\nexpm1\nfabs\nfactorial\nfloor\nfmod\nfrexp\nfsum\ngamma\ngcd\nhypot\nisqrt\nlcm\nldexp\nlgamma\nlog1p\nlog2\nmodf\nradians\nremainder\ntrunc\nprod\nperm\ncomb\nnextafter\nulp\nmimetypes\n_mimetypes_read_windows_registry\n_winreg\nknownfiles\ninited\n_db\nMimeTypes\nguess_type\nguess_all_extensions\nguess_extension\nadd_type\ninit\nread_mime_types\n_default_mime_types\nsuffix_map\n_suffix_map_default\nencodings_map\n_encodings_map_default\ntypes_map\n_types_map_default\ncommon_types\n_common_types_default\nreduction\nAuthenticationError\nBarrier\nBoundedSemaphore\nBufferTooShort\nCondition\nEvent\nJoinableQueue\nLock\nPipe\nPool\nProcess\nProcessError\nRawArray\nRawValue\nSemaphore\nValue\nactive_children\nallow_connection_pickling\ncpu_count\ncurrent_process\nfreeze_support\nget_all_start_methods\nget_context\nget_logger\nget_start_method\nlog_to_stderr\nparent_process\nreducer\nset_executable\nset_forkserver_preload\nset_start_method\nSUBDEBUG\nSUBWARNING\nconnection\nqueues\nmultiprocessing.connection\n_ForkingPickler\n_winapi\nCONNECTION_TIMEOUT\n_mmap_counter\ndefault_family\nfamilies\n_init_timeout\n_check_timeout\narbitrary_address\n_validate_family\naddress_type\n_ConnectionBase\nConnection\nListener\nClient\nSocketListener\nSocketClient\nMESSAGE_LENGTH\nCHALLENGE\nWELCOME\nFAILURE\ndeliver_challenge\nanswer_challenge\nConnectionWrapper\n_xml_dumps\n_xml_loads\nXmlListener\nXmlClient\nselectors\n_WaitSelector\nreduce_connection\nrebuild_connection\nmultiprocessing.context\nBaseContext\nForkProcess\nSpawnProcess\nForkServerProcess\nForkContext\nSpawnContext\nForkServerContext\n_concrete_contexts\n_default_context\n_force_start_method\n_tls\nget_spawning_popen\nset_spawning_popen\nassert_spawning\nmultiprocessing.process\nORIGINAL_DIR\n_cleanup\nBaseProcess\nAuthenticationString\n_ParentProcess\n_parent_process\n_current_process\n_process_counter\n_children\n_exitcode_to_name\n_dangling\nmultiprocessing.queues\nFull\nFinalize\nregister_after_fork\nis_exiting\nmultiprocessing.reduction\nHAVE_SEND_HANDLE\nForkingPickler\nACKNOWLEDGE\nsendfds\nrecvfds\nsend_handle\nrecv_handle\nDupFd\n_reduce_method\n_C\n_reduce_method_descriptor\n_reduce_partial\n_rebuild_partial\n_reduce_socket\n_rebuild_socket\nAbstractReducer\nmultiprocessing.util\n_args_from_interpreter_flags\nLOGGER_NAME\nDEFAULT_LOGGING_FORMAT\n_log_to_stderr\nsub_debug\nsub_warning\n_platform_supports_abstract_sockets\nis_abstract_socket_namespace\nabstract_sockets_supported\n_remove_temp_dir\nget_temp_dir\n_afterfork_registry\n_afterfork_counter\n_run_after_forkers\n_finalizer_registry\n_finalizer_counter\n_run_finalizers\n_exiting\n_exit_function\nForkAwareThreadLock\nForkAwareLocal\nMAXFD\nclose_all_fds_except\n_close_stdin\n_flush_std_streams\nspawnv_passfds\nclose_fds\n_cleanup_tests\nntpath\ncurdir\npardir\nextsep\nsep\npathsep\naltsep\ndefpath\ndevnull\n_get_bothseps\nnormcase\nisabs\njoin\nsplitdrive\nsplit\nsplitext\nbasename\ndirname\nislink\nlexists\n_getvolumepathname\nismount\nexpanduser\nexpandvars\nnormpath\n_abspath_fallback\nabspath\nrealpath\nsupports_unicode_filenames\nrelpath\ncommonpath\nNumber\nComplex\nReal\nRational\nIntegral\nopcode\n_specialization_stats\n_abs\n__lt__\n__le__\n__eq__\n__ne__\n__ge__\n__gt__\n__not__\n__abs__\n__add__\n__and__\n__call__\n__floordiv__\n__index__\n__inv__\n__invert__\n__lshift__\n__mod__\n__mul__\n__matmul__\n__neg__\n__or__\n__pos__\n__pow__\n__rshift__\n__sub__\n__truediv__\n__xor__\n__concat__\n__contains__\n__delitem__\n__getitem__\n__setitem__\n__iadd__\n__iand__\n__iconcat__\n__ifloordiv__\n__ilshift__\n__imod__\n__imul__\n__imatmul__\n__ior__\n__ipow__\n__irshift__\n__isub__\n__itruediv__\n__ixor__\noptparse\n__copyright__\n_repr\nOptParseError\nOptionError\nOptionConflictError\nOptionValueError\nBadOptionError\nAmbiguousOptionError\nIndentedHelpFormatter\nTitledHelpFormatter\n_parse_num\n_parse_int\n_builtin_cvt\ncheck_builtin\ncheck_choice\nNO_DEFAULT\nOption\nSUPPRESS_HELP\nSUPPRESS_USAGE\nValues\nOptionContainer\nOptionGroup\nOptionParser\n_match_abbrev\nmake_option\nst\n_exists\n_get_exports_list\nname\nlinesep\naccess\nttyname\nchmod\nfchmod\nchown\nfchown\nlchown\nchroot\nctermid\ngetcwd\ngetcwdb\nlink\nlistdir\nlstat\nmkdir\nnice\ngetpriority\nsetpriority\nposix_spawn\nposix_spawnp\nreadlink\nsplice\nrename\nrmdir\nsymlink\nsystem\numask\nuname\nunlink\nremove\nutime\ntimes\nexecv\nexecve\nfork\nregister_at_fork\nsched_get_priority_max\nsched_get_priority_min\nsched_getparam\nsched_getscheduler\nsched_rr_get_interval\nsched_setparam\nsched_setscheduler\nsched_yield\nsched_setaffinity\nsched_getaffinity\nopenpty\nlogin_tty\nforkpty\ngetegid\ngeteuid\ngetgid\ngetgrouplist\ngetgroups\ngetpid\ngetpgrp\ngetppid\ngetuid\ngetlogin\nkill\nkillpg\nsetuid\nseteuid\nsetreuid\nsetgid\nsetegid\nsetregid\nsetgroups\ninitgroups\ngetpgid\nsetpgrp\nwait3\nwait4\nwaitid\nwaitpid\ngetsid\nsetsid\nsetpgid\ntcgetpgrp\ntcsetpgrp\ncloserange\ndevice_encoding\ndup2\nlseek\nread\nreadv\npread\npreadv\nwrite\nwritev\npwrite\npwritev\nsendfile\nfstat\nisatty\npipe\npipe2\nmkfifo\nmknod\nmajor\nminor\nmakedev\nftruncate\ntruncate\nposix_fallocate\nposix_fadvise\nputenv\nunsetenv\nstrerror\nfchdir\nfsync\nsync\nfdatasync\nWCOREDUMP\nWIFCONTINUED\nWIFSTOPPED\nWIFSIGNALED\nWIFEXITED\nWEXITSTATUS\nWTERMSIG\nWSTOPSIG\nfstatvfs\nstatvfs\nconfstr\nsysconf\nfpathconf\npathconf\nabort\ngetloadavg\nurandom\nsetresuid\nsetresgid\ngetresuid\ngetresgid\ngetxattr\nsetxattr\nremovexattr\nlistxattr\nget_terminal_size\nget_inheritable\nset_inheritable\nget_blocking\nset_blocking\nscandir\nfspath\neventfd\neventfd_read\neventfd_write\nwaitstatus_to_exitcode\nenviron\nF_OK\nR_OK\nW_OK\nX_OK\nNGROUPS_MAX\nTMP_MAX\nWCONTINUED\nWNOHANG\nWUNTRACED\nO_RDONLY\nO_WRONLY\nO_RDWR\nO_NDELAY\nO_NONBLOCK\nO_APPEND\nO_DSYNC\nO_RSYNC\nO_SYNC\nO_NOCTTY\nO_CREAT\nO_EXCL\nO_TRUNC\nO_LARGEFILE\nO_PATH\nO_TMPFILE\nPRIO_PROCESS\nPRIO_PGRP\nPRIO_USER\nO_CLOEXEC\nO_ACCMODE\nO_FSYNC\nSEEK_HOLE\nSEEK_DATA\nO_ASYNC\nO_DIRECT\nO_DIRECTORY\nO_NOFOLLOW\nO_NOATIME\nEX_OK\nEX_USAGE\nEX_DATAERR\nEX_NOINPUT\nEX_NOUSER\nEX_NOHOST\nEX_UNAVAILABLE\nEX_SOFTWARE\nEX_OSERR\nEX_OSFILE\nEX_CANTCREAT\nEX_IOERR\nEX_TEMPFAIL\nEX_PROTOCOL\nEX_NOPERM\nEX_CONFIG\nST_RDONLY\nST_NOSUID\nST_NODEV\nST_NOEXEC\nST_SYNCHRONOUS\nST_MANDLOCK\nST_WRITE\nST_APPEND\nST_NOATIME\nST_NODIRATIME\nST_RELATIME\nPOSIX_FADV_NORMAL\nPOSIX_FADV_SEQUENTIAL\nPOSIX_FADV_RANDOM\nPOSIX_FADV_NOREUSE\nPOSIX_FADV_WILLNEED\nPOSIX_FADV_DONTNEED\nP_PID\nP_PGID\nP_ALL\nWEXITED\nWNOWAIT\nWSTOPPED\nCLD_EXITED\nCLD_KILLED\nCLD_DUMPED\nCLD_TRAPPED\nCLD_STOPPED\nCLD_CONTINUED\nF_LOCK\nF_TLOCK\nF_ULOCK\nF_TEST\nSPLICE_F_MOVE\nSPLICE_F_NONBLOCK\nSPLICE_F_MORE\nPOSIX_SPAWN_OPEN\nPOSIX_SPAWN_CLOSE\nPOSIX_SPAWN_DUP2\nSCHED_OTHER\nSCHED_FIFO\nSCHED_RR\nSCHED_BATCH\nSCHED_IDLE\nSCHED_RESET_ON_FORK\nXATTR_CREATE\nXATTR_REPLACE\nXATTR_SIZE_MAX\nRTLD_LAZY\nRTLD_NOW\nRTLD_NODELETE\nRTLD_NOLOAD\nRTLD_DEEPBIND\nEFD_CLOEXEC\nEFD_NONBLOCK\nEFD_SEMAPHORE\npathconf_names\nconfstr_names\nsysconf_names\nwaitid_result\nstat_result\nstatvfs_result\nsched_param\nterminal_size\nDirEntry\ntimes_result\nuname_result\n_exit\nsupports_dir_fd\nsupports_effective_ids\nsupports_fd\nsupports_follow_symlinks\nmakedirs\nremovedirs\nrenames\n_walk\nfwalk\n_fwalk\nexecl\nexecle\nexeclp\nexeclpe\nexecvp\nexecvpe\n_execvpe\nget_exec_path\n_Environ\ngetenv\nsupports_bytes_environ\nenvironb\ngetenvb\nfsencode\nfsdecode\nP_WAIT\nP_NOWAIT\nP_NOWAITO\n_spawnvef\nspawnv\nspawnve\nspawnvp\nspawnvpe\nspawnl\nspawnle\nspawnlp\nspawnlpe\npopen\n_wrap_close\nfdopen\n_fspath\nPathLike\nmemfd_create\ncopy_file_range\ngetrandom\npidfd_open\nGRND_NONBLOCK\nGRND_RANDOM\nMFD_ALLOW_SEALING\nMFD_CLOEXEC\nMFD_HUGETLB\nMFD_HUGE_16GB\nMFD_HUGE_16MB\nMFD_HUGE_1GB\nMFD_HUGE_1MB\nMFD_HUGE_256MB\nMFD_HUGE_2GB\nMFD_HUGE_2MB\nMFD_HUGE_32MB\nMFD_HUGE_512KB\nMFD_HUGE_512MB\nMFD_HUGE_64KB\nMFD_HUGE_8MB\nMFD_HUGE_MASK\nMFD_HUGE_SHIFT\nP_PIDFD\nRWF_APPEND\nRWF_DSYNC\nRWF_HIPRI\nRWF_NOWAIT\nRWF_SYNC\n_get_sep\n_varprog\n_varprogb\n_path_normpath\n_joinrealpath\nurlquote_from_bytes\n_WINERROR_NOT_READY\n_WINERROR_INVALID_NAME\n_WINERROR_CANT_RESOLVE_FILENAME\n_IGNORED_ERRNOS\n_IGNORED_WINERRORS\n_ignore_error\n_is_wildcard_pattern\n_Flavour\n_WindowsFlavour\n_PosixFlavour\n_windows_flavour\n_posix_flavour\n_make_selector\n_Selector\n_TerminatingSelector\n_PreciseSelector\n_WildcardSelector\n_RecursiveWildcardSelector\n_PathParents\nPurePath\nPurePosixPath\nPureWindowsPath\nPosixPath\nWindowsPath\nmaxsize\n_HAVE_PICKLE_BUFFER\nformat_version\ncompatible_formats\nHIGHEST_PROTOCOL\nDEFAULT_PROTOCOL\n_Stop\nPyStringMap\nMARK\nSTOP\nPOP\nPOP_MARK\nDUP\nFLOAT\nINT\nBININT\nBININT1\nLONG\nBININT2\nNONE\nPERSID\nBINPERSID\nREDUCE\nSTRING\nBINSTRING\nSHORT_BINSTRING\nUNICODE\nBINUNICODE\nAPPEND\nBUILD\nGLOBAL\nDICT\nEMPTY_DICT\nAPPENDS\nGET\nBINGET\nINST\nLONG_BINGET\nLIST\nEMPTY_LIST\nOBJ\nPUT\nBINPUT\nLONG_BINPUT\nSETITEM\nTUPLE\nEMPTY_TUPLE\nSETITEMS\nBINFLOAT\nTRUE\nFALSE\nPROTO\nNEWOBJ\nEXT1\nEXT2\nEXT4\nTUPLE1\nTUPLE2\nTUPLE3\nNEWTRUE\nNEWFALSE\nLONG1\nLONG4\n_tuplesize2code\nBINBYTES\nSHORT_BINBYTES\nSHORT_BINUNICODE\nBINUNICODE8\nBINBYTES8\nEMPTY_SET\nADDITEMS\nFROZENSET\nNEWOBJ_EX\nSTACK_GLOBAL\nMEMOIZE\nFRAME\nBYTEARRAY8\nNEXT_BUFFER\nREADONLY_BUFFER\n_Framer\n_Unframer\n_getattribute\nwhichmodule\nencode_long\ndecode_long\n_Pickler\n_Unpickler\n_dump\n_dumps\n_loads\npkgutil\nsimplegeneric\nModuleType\nModuleInfo\n_get_spec\nread_code\nwalk_packages\niter_modules\niter_importer_modules\n_iter_file_finder_modules\n_import_imp\nImpImporter\nImpLoader\nzipimport\nzipimporter\niter_zipimport_modules\nget_importer\niter_importers\nget_loader\nextend_path\nget_data\n_NAME_PATTERN\nplatform\n_ver_stages\n_component_re\n_comparable_version\n_libc_search\nlibc_ver\n_norm_version\n_ver_output\n_syscmd_ver\n_WIN32_CLIENT_RELEASES\n_WIN32_SERVER_RELEASES\nwin32_is_iot\nwin32_edition\nwin32_ver\n_mac_ver_xml\nmac_ver\n_java_getprop\njava_ver\nsystem_alias\n_platform\n_node\n_follow_symlinks\n_syscmd_file\n_default_architecture\narchitecture\n_get_machine_win32\n_Processor\n_unknown_as_blank\n_uname_cache\nnode\nrelease\nmachine\nprocessor\n_sys_version_parser\n_ironpython_sys_version_parser\n_ironpython26_sys_version_parser\n_pypy_sys_version_parser\n_sys_version_cache\n_sys_version\npython_implementation\npython_version\npython_version_tuple\npython_branch\npython_revision\npython_build\npython_compiler\n_platform_cache\n_os_release_line\n_os_release_unescape\n_os_release_candidates\n_os_release_cache\n_parse_os_release\nfreedesktop_os_release\nposix\n_have_functions\npprint\n_dataclasses\n_StringIO\npformat\npp\nsaferepr\nisreadable\nisrecursive\n_safe_key\n_safe_tuple\nPrettyPrinter\n_builtin_scalars\n_recursion\n_perfcheck\n_wrap_bytes_repr\npyexpat\nParserCreate\nErrorString\nExpatError\nXMLParserType\nEXPAT_VERSION\nversion_info\nnative_encoding\nmodel\nfeatures\nXML_PARAM_ENTITY_PARSING_NEVER\nXML_PARAM_ENTITY_PARSING_UNLESS_STANDALONE\nXML_PARAM_ENTITY_PARSING_ALWAYS\nexpat_CAPI\npyexpat.errors\nXML_ERROR_NO_MEMORY\nXML_ERROR_SYNTAX\nXML_ERROR_NO_ELEMENTS\nXML_ERROR_INVALID_TOKEN\nXML_ERROR_UNCLOSED_TOKEN\nXML_ERROR_PARTIAL_CHAR\nXML_ERROR_TAG_MISMATCH\nXML_ERROR_DUPLICATE_ATTRIBUTE\nXML_ERROR_JUNK_AFTER_DOC_ELEMENT\nXML_ERROR_PARAM_ENTITY_REF\nXML_ERROR_UNDEFINED_ENTITY\nXML_ERROR_RECURSIVE_ENTITY_REF\nXML_ERROR_ASYNC_ENTITY\nXML_ERROR_BAD_CHAR_REF\nXML_ERROR_BINARY_ENTITY_REF\nXML_ERROR_ATTRIBUTE_EXTERNAL_ENTITY_REF\nXML_ERROR_MISPLACED_XML_PI\nXML_ERROR_UNKNOWN_ENCODING\nXML_ERROR_INCORRECT_ENCODING\nXML_ERROR_UNCLOSED_CDATA_SECTION\nXML_ERROR_EXTERNAL_ENTITY_HANDLING\nXML_ERROR_NOT_STANDALONE\nXML_ERROR_UNEXPECTED_STATE\nXML_ERROR_ENTITY_DECLARED_IN_PE\nXML_ERROR_FEATURE_REQUIRES_XML_DTD\nXML_ERROR_CANT_CHANGE_FEATURE_ONCE_PARSING\nXML_ERROR_UNBOUND_PREFIX\nXML_ERROR_UNDECLARING_PREFIX\nXML_ERROR_INCOMPLETE_PE\nXML_ERROR_XML_DECL\nXML_ERROR_TEXT_DECL\nXML_ERROR_PUBLICID\nXML_ERROR_SUSPENDED\nXML_ERROR_NOT_SUSPENDED\nXML_ERROR_ABORTED\nXML_ERROR_FINISHED\nXML_ERROR_SUSPEND_PE\nXML_ERROR_RESERVED_PREFIX_XML\nXML_ERROR_RESERVED_PREFIX_XMLNS\nXML_ERROR_RESERVED_NAMESPACE_URI\nXML_ERROR_INVALID_ARGUMENT\nXML_ERROR_NO_BUFFER\nXML_ERROR_AMPLIFICATION_LIMIT_BREACH\ncodes\nmessages\npyexpat.model\nXML_CTYPE_EMPTY\nXML_CTYPE_ANY\nXML_CTYPE_MIXED\nXML_CTYPE_NAME\nXML_CTYPE_CHOICE\nXML_CTYPE_SEQ\nXML_CQUANT_NONE\nXML_CQUANT_OPT\nXML_CQUANT_REP\nXML_CQUANT_PLUS\nPriorityQueue\nLifoQueue\n_PySimpleQueue\nHEX\nneedsquoting\nencodestring\nishex\nunhex\n_warn\n_log\n_exp\n_pi\n_e\n_ceil\n_sqrt\n_acos\n_cos\n_sin\nTWOPI\n_floor\n_isfinite\n_urandom\n_Set\n_Sequence\n_index\n_accumulate\nNV_MAGICCONST\nLOG4\nSG_MAGICCONST\nBPF\nRECIP_BPF\n_ONE\nSystemRandom\n_inst\nseed\nuniform\ntriangular\nrandint\nchoice\nrandrange\nsample\nshuffle\nchoices\nnormalvariate\nlognormvariate\nexpovariate\nvonmisesvariate\ngammavariate\ngauss\nbetavariate\nparetovariate\nweibullvariate\ngetstate\nsetstate\ngetrandbits\nrandbytes\n_test_generator\n_constants\n_parser\n_casefix\n_compiler\nNOFLAG\nASCII\nA\nIGNORECASE\nI\nLOCALE\nL\nU\nMULTILINE\nM\nDOTALL\nS\nVERBOSE\nX\nTEMPLATE\nT\nRegexFlag\nmatch\nfullmatch\nsearch\nsubn\nfindall\nfinditer\npurge\ntemplate\n_special_chars_map\nPattern\n_MAXCACHE\n_compile_repl\n_expand\n_subx\nScanner\nre._casefix\n_EXTRA_CASES\nre._compiler\nSUCCESS\nANY\nANY_ALL\nASSERT\nASSERT_NOT\nAT\nBRANCH\nCATEGORY\nCHARSET\nBIGCHARSET\nGROUPREF\nGROUPREF_EXISTS\nIN\nJUMP\nLITERAL\nMAX_UNTIL\nMIN_UNTIL\nNOT_LITERAL\nNEGATE\nRANGE\nREPEAT\nREPEAT_ONE\nSUBPATTERN\nMIN_REPEAT_ONE\nATOMIC_GROUP\nPOSSESSIVE_REPEAT\nPOSSESSIVE_REPEAT_ONE\nGROUPREF_IGNORE\nIN_IGNORE\nLITERAL_IGNORE\nNOT_LITERAL_IGNORE\nGROUPREF_LOC_IGNORE\nIN_LOC_IGNORE\nLITERAL_LOC_IGNORE\nNOT_LITERAL_LOC_IGNORE\nGROUPREF_UNI_IGNORE\nIN_UNI_IGNORE\nLITERAL_UNI_IGNORE\nNOT_LITERAL_UNI_IGNORE\nRANGE_UNI_IGNORE\nMIN_REPEAT\nMAX_REPEAT\nOPCODES\nAT_BEGINNING\nAT_BEGINNING_LINE\nAT_BEGINNING_STRING\nAT_BOUNDARY\nAT_NON_BOUNDARY\nAT_END\nAT_END_LINE\nAT_END_STRING\nAT_LOC_BOUNDARY\nAT_LOC_NON_BOUNDARY\nAT_UNI_BOUNDARY\nAT_UNI_NON_BOUNDARY\nATCODES\nCATEGORY_DIGIT\nCATEGORY_NOT_DIGIT\nCATEGORY_SPACE\nCATEGORY_NOT_SPACE\nCATEGORY_WORD\nCATEGORY_NOT_WORD\nCATEGORY_LINEBREAK\nCATEGORY_NOT_LINEBREAK\nCATEGORY_LOC_WORD\nCATEGORY_LOC_NOT_WORD\nCATEGORY_UNI_DIGIT\nCATEGORY_UNI_NOT_DIGIT\nCATEGORY_UNI_SPACE\nCATEGORY_UNI_NOT_SPACE\nCATEGORY_UNI_WORD\nCATEGORY_UNI_NOT_WORD\nCATEGORY_UNI_LINEBREAK\nCATEGORY_UNI_NOT_LINEBREAK\nCHCODES\nOP_IGNORE\nOP_LOCALE_IGNORE\nOP_UNICODE_IGNORE\nAT_MULTILINE\nAT_LOCALE\nAT_UNICODE\nCH_LOCALE\nCH_UNICODE\nSRE_FLAG_TEMPLATE\nSRE_FLAG_IGNORECASE\nSRE_FLAG_LOCALE\nSRE_FLAG_MULTILINE\nSRE_FLAG_DOTALL\nSRE_FLAG_UNICODE\nSRE_FLAG_VERBOSE\nSRE_FLAG_DEBUG\nSRE_FLAG_ASCII\nSRE_INFO_PREFIX\nSRE_INFO_LITERAL\nSRE_INFO_CHARSET\n_LITERAL_CODES\n_SUCCESS_CODES\n_ASSERT_CODES\n_UNIT_CODES\n_REPEATING_CODES\n_combine_flags\n_compile_charset\n_optimize_charset\n_CODEBITS\nMAXCODE\n_BITS_TRANS\n_mk_bitmap\n_bytes_to_codes\n_simple\n_generate_overlap_table\n_get_iscased\n_get_literal_prefix\n_get_charset_prefix\n_compile_info\nisstring\n_code\n_hex_code\nre._constants\n_NamedIntConstant\n_makecodes\nre._parser\nSPECIAL_CHARS\nREPEAT_CHARS\nDIGITS\nOCTDIGITS\nHEXDIGITS\nASCIILETTERS\n_REPEATCODES\n_UNITCODES\nESCAPES\nCATEGORIES\nTYPE_FLAGS\nGLOBAL_FLAGS\nMAXWIDTH\nState\nSubPattern\nTokenizer\n_class_escape\n_escape\n_uniq\n_parse_sub\n_parse_flags\nfix_flags\nparse_template\nexpand_template\nreprlib\nRepr\n_possibly_sorted\naRepr\nrich\n_extension\nload_ipython_extension\n_console\n_IMPORT_CWD\nget_console\nreconfigure\nprint_json\n_null_file\ncolor_triplet\npalette\n_palettes\nterminal_theme\ncolor\nstyle\ndefault_styles\ntheme\nthemes\n_emoji_codes\n_emoji_replace\n_export_format\n_fileno\n_loop\n_pick\n_cell_widths\ncells\nsegment\njupyter\nprotocol\nmeasure\nconstrain\nalign\ncontainers\ncontrol\nemoji\ntext\n_log_render\nhighlighter\nmarkup\npager\npretty\nregion\nbox\npadding\npanel\n_ratio\ntable\nscope\nscreen\nstyled\nconsole\nrich._cell_widths\nCELL_WIDTHS\nrich._emoji_codes\nEMOJI\nrich._emoji_replace\n_ReStringMatch\n_ReSubCallable\n_EmojiSubMethod\nrich._export_format\nCONSOLE_HTML_FORMAT\nCONSOLE_SVG_FORMAT\n_SVG_FONT_FAMILY\n_SVG_CLASSES_PREFIX\nrich._extension\nrich._fileno\nget_fileno\nrich._log_render\nTextType\nFormatTimeCallable\nLogRender\nrich._loop\nloop_first\nloop_last\nloop_first_last\nrich._null_file\nTracebackType\nType\nNullFile\nNULL_FILE\nrich._palettes\nPalette\nWINDOWS_PALETTE\nSTANDARD_PALETTE\nEIGHT_BIT_PALETTE\nrich._pick\npick_bool\nrich._ratio\nEdge\nratio_resolve\nratio_reduce\nratio_distribute\nrich._wrap\ncell_len\nchop_cells\nre_word\nwords\ndivide_line\nrich.abc\nRichRenderable\nrich.align\nConstrain\nJupyterMixin\nMeasurement\nSegment\nStyleType\nAlignMethod\nVerticalAlignMethod\nAlign\nVerticalCenter\nrich.box\nBox\nASCII2\nASCII_DOUBLE_HEAD\nSQUARE\nSQUARE_DOUBLE_HEAD\nMINIMAL\nMINIMAL_HEAVY_HEAD\nMINIMAL_DOUBLE_HEAD\nSIMPLE\nSIMPLE_HEAD\nSIMPLE_HEAVY\nHORIZONTALS\nROUNDED\nHEAVY\nHEAVY_EDGE\nHEAVY_HEAD\nDOUBLE\nDOUBLE_EDGE\nMARKDOWN\nLEGACY_WINDOWS_SUBSTITUTIONS\nPLAIN_HEADED_SUBSTITUTIONS\nrich.cells\n_is_single_cell_widths\ncached_cell_len\nget_character_cell_size\n_get_codepoint_cell_size\nset_cell_size\nrich.color\nNamedTuple\nColorTriplet\nResult\nrich_repr\nDEFAULT_TERMINAL_THEME\nWINDOWS\nColorSystem\nColorType\nANSI_COLOR_NAMES\nColorParseError\nRE_COLOR\nColor\nparse_rgb_hex\nblend_rgb\nrich.color_triplet\nrich.console\nmonotonic\nFrameType\nControl\nEmojiVariant\nNullHighlighter\nReprHighlighter\nrender_markup\nmeasure_renderables\nPager\nSystemPager\nPretty\nis_expandable\nrich_cast\nRegion\nrender_scope\nScreen\nStyle\nStyled\nSVG_EXPORT_THEME\nTerminalTheme\nTheme\nThemeStack\nJUPYTER_DEFAULT_COLUMNS\nJUPYTER_DEFAULT_LINES\nHighlighterType\nJustifyMethod\nOverflowMethod\nNoChange\nNO_CHANGE\n_STDIN_FILENO\n_STDOUT_FILENO\n_STDERR_FILENO\n_STD_STREAMS\n_STD_STREAMS_OUTPUT\n_TERM_COLORS\nConsoleDimensions\nConsoleOptions\nRichCast\nConsoleRenderable\nRenderableType\nRenderResult\n_null_highlighter\nCaptureError\nNewLine\nScreenUpdate\nCapture\nThemeContext\nPagerContext\nScreenContext\nGroup\ngroup\n_is_jupyter\nCOLOR_SYSTEMS\n_COLOR_SYSTEMS_NAMES\nConsoleThreadLocals\nRenderHook\n_windows_console_features\nget_windows_console_features\ndetect_legacy_windows\n_svg_hash\nrich.constrain\nrich.containers\noverload\nRenderables\nLines\nrich.control\nFinal\nControlCode\nControlType\nSTRIP_CONTROL_CODES\n_CONTROL_STRIP_TRANSLATE\nCONTROL_ESCAPE\nCONTROL_CODES_FORMAT\nstrip_control_codes\nescape_control_codes\nrich.default_styles\nDEFAULT_STYLES\nrich.emoji\nNoEmoji\nEmoji\nrich.errors\nConsoleError\nStyleError\nStyleSyntaxError\nMissingStyle\nStyleStackError\nNotRenderableError\nMarkupError\nLiveError\nNoAltScreen\nrich.highlighter\nSpan\n_combine_regex\nHighlighter\nRegexHighlighter\nJSONHighlighter\nISO8601Highlighter\nrich.jupyter\nJUPYTER_HTML_FORMAT\nJupyterRenderable\n_render_segments\ndisplay\nrich.markup\nRE_TAGS\nRE_HANDLER\nTag\n_EscapeSubMethod\nrender\nrich.measure\nis_renderable\nrich.padding\nPaddingDimensions\nPadding\nrich.pager\nrich.palette\nrich.panel\nPanel\nrich.pretty\nDefaultDict\nRichReprResult\n_has_attrs\n_is_attr_object\n_get_attr_fields\n_is_dataclass_repr\n_dummy_namedtuple\n_has_default_namedtuple_repr\n_ipy_display_hook\n_safe_isinstance\n_get_braces_for_defaultdict\n_get_braces_for_array\n_BRACES\n_CONTAINERS\n_MAPPING_CONTAINERS\nNode\n_Line\n_is_namedtuple\ntraverse\npretty_repr\nrich.protocol\n_GIBBERISH\nrich.region\nrich.repr\nReprError\nrich.scope\nTable\nrich.screen\nrich.segment\nSegments\nSegmentLines\nrich.style\n_Bit\nNULL_STYLE\nStyleStack\nrich.styled\nrich.table\nColumn\nRow\n_Cell\nrich.terminal_theme\n_ColorTuple\nMONOKAI\nDIMMED_MONOKAI\nNIGHT_OWLISH\nrich.text\nDEFAULT_JUSTIFY\nDEFAULT_OVERFLOW\n_re_whitespace\nGetStyleCallable\nrich.theme\nThemeStackError\nrich.themes\nDEFAULT\nsched\n_time\nscheduler\nsecrets\n_sysrand\nrandbits\nrandbelow\nDEFAULT_ENTROPY\ntoken_bytes\ntoken_hex\ntoken_urlsafe\nselect\npoll\nPIPE_BUF\nPOLLIN\nPOLLPRI\nPOLLOUT\nPOLLERR\nPOLLHUP\nPOLLNVAL\nPOLLRDNORM\nPOLLRDBAND\nPOLLWRNORM\nPOLLWRBAND\nPOLLMSG\nPOLLRDHUP\nepoll\nEPOLLIN\nEPOLLOUT\nEPOLLPRI\nEPOLLERR\nEPOLLHUP\nEPOLLRDHUP\nEPOLLET\nEPOLLONESHOT\nEPOLLRDNORM\nEPOLLRDBAND\nEPOLLWRNORM\nEPOLLWRBAND\nEPOLLMSG\nEPOLL_CLOEXEC\nEPOLLEXCLUSIVE\nEVENT_READ\nEVENT_WRITE\n_fileobj_to_fd\nSelectorKey\n_SelectorMapping\nBaseSelector\n_BaseSelectorImpl\nSelectSelector\n_PollLikeSelector\nPollSelector\nEpollSelector\n_can_use\nDefaultSelector\nshlex\n_find_unsafe\n_print_tokens\nshutil\n_ZLIB_SUPPORTED\n_BZ2_SUPPORTED\n_LZMA_SUPPORTED\n_WINDOWS\nnt\nCOPY_BUFSIZE\n_USE_CP_SENDFILE\n_HAS_FCOPYFILE\n_WIN_DEFAULT_PATHEXT\nSameFileError\nSpecialFileError\nExecError\nReadError\nRegistryError\n_GiveupOnFastCopy\n_fastcopy_fcopyfile\n_fastcopy_sendfile\n_copyfileobj_readinto\ncopyfileobj\n_samefile\n_islink\ncopyfile\ncopymode\n_copyxattr\ncopystat\ncopy2\nignore_patterns\n_copytree\ncopytree\n_rmtree_isdir\n_rmtree_islink\n_rmtree_unsafe\n_rmtree_safe_fd\n_use_fd_functions\nrmtree\n_basename\nmove\n_destinsrc\n_is_immutable\n_get_gid\n_get_uid\n_make_tarball\n_make_zipfile\n_ARCHIVE_FORMATS\nget_archive_formats\nregister_archive_format\nunregister_archive_format\nmake_archive\nget_unpack_formats\n_check_unpack_options\nregister_unpack_format\nunregister_unpack_format\n_ensure_directory\n_unpack_zipfile\n_unpack_tarfile\n_UNPACK_FORMATS\n_find_unpack_format\nunpack_archive\n_ntuple_diskusage\ndisk_usage\n_access_check\nwhich\n_IntEnum\nSignals\nHandlers\nSigmasks\n_int_to_enum\n_enum_to_int\nsite\nPREFIXES\nENABLE_USER_SITE\nUSER_SITE\nUSER_BASE\n_trace\nmakepath\nabs_paths\nremoveduppaths\n_init_pathinfo\naddpackage\naddsitedir\ncheck_enableusersite\n_getuserbase\n_get_path\ngetuserbase\ngetusersitepackages\naddusersitepackages\ngetsitepackages\naddsitepackages\nsetquit\nsetcopyright\nsethelper\nenablerlcompleter\nvenv\nexecsitecustomize\nexecusercustomize\n_script\nAddressFamily\nSocketKind\nMsgFlag\nAddressInfo\n_LOCALHOST\n_LOCALHOST_V6\n_intenum_converter\n_GiveupOnSendfile\nfromfd\nsend_fds\nrecv_fds\n_fallback_socketpair\n_blocking_errnos\nSocketIO\ngetfqdn\n_GLOBAL_DEFAULT_TIMEOUT\ncreate_connection\nhas_dualstack_ipv6\ncreate_server\nsocketserver\n_ServerSelector\nBaseServer\nTCPServer\nUDPServer\nForkingMixIn\n_Threads\n_NoThreads\nThreadingMixIn\nForkingUDPServer\nForkingTCPServer\nThreadingUDPServer\nUnixStreamServer\nUnixDatagramServer\nThreadingUnixStreamServer\nThreadingUnixDatagramServer\nBaseRequestHandler\n_SocketWriter\nDatagramRequestHandler\n_filemode_table\nFILE_ATTRIBUTE_ARCHIVE\nFILE_ATTRIBUTE_COMPRESSED\nFILE_ATTRIBUTE_DEVICE\nFILE_ATTRIBUTE_DIRECTORY\nFILE_ATTRIBUTE_ENCRYPTED\nFILE_ATTRIBUTE_HIDDEN\nFILE_ATTRIBUTE_INTEGRITY_STREAM\nFILE_ATTRIBUTE_NORMAL\nFILE_ATTRIBUTE_NOT_CONTENT_INDEXED\nFILE_ATTRIBUTE_NO_SCRUB_DATA\nFILE_ATTRIBUTE_OFFLINE\nFILE_ATTRIBUTE_READONLY\nFILE_ATTRIBUTE_REPARSE_POINT\nFILE_ATTRIBUTE_SPARSE_FILE\nFILE_ATTRIBUTE_SYSTEM\nFILE_ATTRIBUTE_TEMPORARY\nFILE_ATTRIBUTE_VIRTUAL\nstatistics\n_SQRT2\nStatisticsError\n_sum\n_ss\n_coerce\n_exact_ratio\n_fail_neg\n_integer_sqrt_of_frac_rto\n_sqrt_bit_width\n_float_sqrt_of_frac\n_decimal_sqrt_of_frac\nmean\nfmean\ngeometric_mean\nharmonic_mean\nmedian\nmedian_low\nmedian_high\nmedian_grouped\nmode\nmultimode\nquantiles\nvariance\npvariance\nstdev\npstdev\n_mean_stdev\ncovariance\ncorrelation\nLinearRegression\nlinear_regression\nNormalDist\nwhitespace\nascii_lowercase\nascii_uppercase\noctdigits\npunctuation\nprintable\ncapwords\n_sentinel_dict\nsubprocess\n_mswindows\n_can_fork_exec\n_fork_exec\n_waitpid\n_waitstatus_to_exitcode\n_WIFSTOPPED\n_WSTOPSIG\n_WNOHANG\nSubprocessError\nCalledProcessError\nTimeoutExpired\n_PIPE_BUF\n_PopenSelector\n_active\nPIPE\nSTDOUT\nDEVNULL\n_optim_args_from_interpreter_flags\n_text_encoding\ncheck_call\ncheck_output\nCompletedProcess\nrun\nlist2cmdline\ngetstatusoutput\ngetoutput\n_use_posix_spawn\n_USE_POSIX_SPAWN\n_USE_VFORK\nPopen\naddaudithook\naudit\nbreakpointhook\n_clear_type_cache\n_current_frames\n_current_exceptions\ndisplayhook\nexc_info\nexcepthook\ngetdefaultencoding\ngetdlopenflags\ngetallocatedblocks\ngetfilesystemencoding\ngetfilesystemencodeerrors\n_getquickenedcount\ngetrefcount\ngetrecursionlimit\ngetsizeof\n_getframe\nintern\nis_finalizing\nsetswitchinterval\ngetswitchinterval\nsetdlopenflags\nsetprofile\ngetprofile\nsetrecursionlimit\nsettrace\ngettrace\ncall_tracing\n_debugmallocstats\nset_coroutine_origin_tracking_depth\nget_coroutine_origin_tracking_depth\nset_asyncgen_hooks\nget_asyncgen_hooks\nunraisablehook\nget_int_max_str_digits\nset_int_max_str_digits\nmodules\nstderr\n__stderr__\n__displayhook__\n__excepthook__\n__breakpointhook__\n__unraisablehook__\nhexversion\n_git\n_framework\napi_version\nfloat_info\nint_info\nhash_info\nmaxunicode\nbuiltin_module_names\nstdlib_module_names\nbyteorder\nabiflags\nimplementation\nfloat_repr_style\nthread_info\nmeta_path\npath_importer_cache\npath_hooks\nexecutable\n_base_executable\nprefix\nbase_prefix\nexec_prefix\nbase_exec_prefix\nplatlibdir\npycache_prefix\nargv\norig_argv\nwarnoptions\n_xoptions\n_stdlib_dir\ndont_write_bytecode\n__stdin__\nstdin\n__stdout__\nstdout\n_home\n__interactivehook__\n_shutil\n_errno\n_Random\n_allocate_lock\n_text_openflags\n_bin_openflags\n_once_lock\n_infer_return_type\n_sanitize_params\n_RandomNameSequence\n_candidate_tempdir_list\n_get_default_tempdir\n_name_sequence\n_get_candidate_names\n_mkstemp_inner\n_dont_follow_symlinks\n_resetperms\ngettempprefix\ngettempprefixb\ntempdir\n_gettempdir\ngettempdir\ngettempdirb\nmkstemp\nmkdtemp\nmktemp\n_TemporaryFileCloser\n_TemporaryFileWrapper\nNamedTemporaryFile\n_O_TMPFILE_WORKS\nTemporaryFile\nSpooledTemporaryFile\nTemporaryDirectory\ntcgetattr\ntcsetattr\ntcsendbreak\ntcdrain\ntcflush\ntcflow\ntcgetwinsize\ntcsetwinsize\nB0\nB50\nB75\nB110\nB134\nB150\nB200\nB300\nB600\nB1200\nB1800\nB2400\nB4800\nB9600\nB19200\nB38400\nB57600\nB115200\nB230400\nB460800\nB500000\nB576000\nB921600\nB1000000\nB1152000\nB1500000\nB2000000\nB2500000\nB3000000\nB3500000\nB4000000\nCBAUDEX\nTCSANOW\nTCSADRAIN\nTCSAFLUSH\nTCIFLUSH\nTCOFLUSH\nTCIOFLUSH\nTCOOFF\nTCOON\nTCIOFF\nTCION\nIGNBRK\nBRKINT\nIGNPAR\nPARMRK\nINPCK\nISTRIP\nINLCR\nIGNCR\nICRNL\nIUCLC\nIXON\nIXANY\nIXOFF\nIMAXBEL\nOPOST\nOLCUC\nONLCR\nOCRNL\nONOCR\nONLRET\nOFILL\nOFDEL\nNLDLY\nCRDLY\nTABDLY\nBSDLY\nVTDLY\nFFDLY\nNL0\nNL1\nCR0\nCR1\nCR2\nCR3\nTAB0\nTAB1\nTAB2\nTAB3\nXTABS\nBS0\nBS1\nVT0\nVT1\nFF0\nFF1\nCSIZE\nCSTOPB\nCREAD\nPARENB\nPARODD\nHUPCL\nCLOCAL\nCIBAUD\nCRTSCTS\nCS5\nCS6\nCS7\nCS8\nISIG\nICANON\nXCASE\nECHO\nECHOE\nECHOK\nECHONL\nECHOCTL\nECHOPRT\nECHOKE\nFLUSHO\nNOFLSH\nTOSTOP\nPENDIN\nIEXTEN\nVINTR\nVQUIT\nVERASE\nVKILL\nVEOF\nVTIME\nVMIN\nVSWTC\nVSWTCH\nVSTART\nVSTOP\nVSUSP\nVEOL\nVREPRINT\nVDISCARD\nVWERASE\nVLNEXT\nVEOL2\nCBAUD\nCDSUSP\nCEOF\nCEOL\nCEOT\nCERASE\nCFLUSH\nCINTR\nCKILL\nCLNEXT\nCQUIT\nCRPRNT\nCSTART\nCSTOP\nCSUSP\nCWERASE\nEXTA\nEXTB\nFIOASYNC\nFIOCLEX\nFIONBIO\nFIONCLEX\nFIONREAD\nIOCSIZE_MASK\nIOCSIZE_SHIFT\nNCC\nNCCS\nN_MOUSE\nN_PPP\nN_SLIP\nN_STRIP\nN_TTY\nTCFLSH\nTCGETA\nTCGETS\nTCSBRK\nTCSBRKP\nTCSETA\nTCSETAF\nTCSETAW\nTCSETS\nTCSETSF\nTCSETSW\nTCXONC\nTIOCCONS\nTIOCEXCL\nTIOCGETD\nTIOCGICOUNT\nTIOCGLCKTRMIOS\nTIOCGPGRP\nTIOCGSERIAL\nTIOCGSOFTCAR\nTIOCGWINSZ\nTIOCINQ\nTIOCLINUX\nTIOCMBIC\nTIOCMBIS\nTIOCMGET\nTIOCMIWAIT\nTIOCMSET\nTIOCM_CAR\nTIOCM_CD\nTIOCM_CTS\nTIOCM_DSR\nTIOCM_DTR\nTIOCM_LE\nTIOCM_RI\nTIOCM_RNG\nTIOCM_RTS\nTIOCM_SR\nTIOCM_ST\nTIOCNOTTY\nTIOCNXCL\nTIOCOUTQ\nTIOCPKT\nTIOCPKT_DATA\nTIOCPKT_DOSTOP\nTIOCPKT_FLUSHREAD\nTIOCPKT_FLUSHWRITE\nTIOCPKT_NOSTOP\nTIOCPKT_START\nTIOCPKT_STOP\nTIOCSCTTY\nTIOCSERCONFIG\nTIOCSERGETLSR\nTIOCSERGETMULTI\nTIOCSERGSTRUCT\nTIOCSERGWILD\nTIOCSERSETMULTI\nTIOCSERSWILD\nTIOCSER_TEMT\nTIOCSETD\nTIOCSLCKTRMIOS\nTIOCSPGRP\nTIOCSSERIAL\nTIOCSSOFTCAR\nTIOCSTI\nTIOCSWINSZ\n_whitespace\nTextWrapper\nwrap\nfill\nshorten\n_whitespace_only_re\n_leading_whitespace_re\ndedent\nindent\n_islice\n_deque\n_start_new_thread\n_HAVE_THREAD_NATIVE_ID\nThreadError\n_CRLock\n_profile_hook\n_trace_hook\n_RLock\n_PyRLock\nBrokenBarrierError\n_counter\n_newname\n_active_limbo_lock\n_limbo\n_shutdown_locks_lock\n_shutdown_locks\n_maintain_shutdown_locks\nThread\nExceptHookArgs\n_make_invoke_excepthook\nTimer\n_MainThread\n_DummyThread\ncurrent_thread\ncurrentThread\nactive_count\nactiveCount\n_enumerate\n_threading_atexits\n_SHUTTING_DOWN\n_register_atexit\n_main_thread\nmain_thread\nlocal\n_after_fork\ntime_ns\nclock_gettime\nclock_gettime_ns\nclock_settime\nclock_settime_ns\nclock_getres\npthread_getcpuclockid\nsleep\ngmtime\nasctime\nctime\nmktime\nstrftime\nstrptime\ntzset\nmonotonic_ns\nprocess_time\nprocess_time_ns\nthread_time\nthread_time_ns\nperf_counter\nperf_counter_ns\nget_clock_info\naltzone\ndaylight\ntzname\nCLOCK_REALTIME\nCLOCK_MONOTONIC\nCLOCK_MONOTONIC_RAW\nCLOCK_PROCESS_CPUTIME_ID\nCLOCK_THREAD_CPUTIME_ID\nCLOCK_BOOTTIME\n_STRUCT_TM_ITEMS\nstruct_time\nCLOCK_TAI\ntimeit\ndummy_src_name\ndefault_number\ndefault_repeat\ndefault_timer\n_globals\nreindent\nENDMARKER\nNAME\nNUMBER\nNEWLINE\nINDENT\nDEDENT\nLPAR\nRPAR\nLSQB\nRSQB\nCOLON\nCOMMA\nSEMI\nPLUS\nMINUS\nSTAR\nSLASH\nVBAR\nAMPER\nLESS\nGREATER\nEQUAL\nDOT\nPERCENT\nLBRACE\nRBRACE\nEQEQUAL\nNOTEQUAL\nLESSEQUAL\nGREATEREQUAL\nTILDE\nCIRCUMFLEX\nLEFTSHIFT\nRIGHTSHIFT\nDOUBLESTAR\nPLUSEQUAL\nMINEQUAL\nSTAREQUAL\nSLASHEQUAL\nPERCENTEQUAL\nAMPEREQUAL\nVBAREQUAL\nCIRCUMFLEXEQUAL\nLEFTSHIFTEQUAL\nRIGHTSHIFTEQUAL\nDOUBLESTAREQUAL\nDOUBLESLASH\nDOUBLESLASHEQUAL\nATEQUAL\nRARROW\nELLIPSIS\nCOLONEQUAL\nOP\nAWAIT\nASYNC\nTYPE_IGNORE\nTYPE_COMMENT\nSOFT_KEYWORD\nERRORTOKEN\nCOMMENT\nENCODING\nN_TOKENS\nNT_OFFSET\ntok_name\nEXACT_TOKEN_TYPES\nISTERMINAL\nISNONTERMINAL\nISEOF\n__credits__\ncookie_re\nblank_re\nTokenInfo\nmaybe\nWhitespace\nComment\nIgnore\nHexnumber\nBinnumber\nOctnumber\nDecnumber\nIntnumber\nExponent\nPointfloat\nExpfloat\nFloatnumber\nImagnumber\n_all_string_prefixes\nStringPrefix\nSingle\nDouble\nSingle3\nDouble3\nTriple\nString\nSpecial\nFunny\nPlainToken\nContStr\nPseudoExtras\nPseudoToken\nendpats\nsingle_quoted\ntriple_quoted\ntabsize\nTokenError\nStopTokenizing\nUntokenizer\nuntokenize\n_get_normal_name\ngenerate_tokens\n_generate_tokens_from_c_tokenizer\nTOMLDecodeError\ntomllib._parser\nRE_DATETIME\nRE_LOCALTIME\nRE_NUMBER\nmatch_to_datetime\nmatch_to_localtime\nmatch_to_number\nKey\nParseFloat\nPos\nASCII_CTRL\nILLEGAL_BASIC_STR_CHARS\nILLEGAL_MULTILINE_BASIC_STR_CHARS\nILLEGAL_LITERAL_STR_CHARS\nILLEGAL_MULTILINE_LITERAL_STR_CHARS\nILLEGAL_COMMENT_CHARS\nTOML_WS\nTOML_WS_AND_NEWLINE\nBARE_KEY_CHARS\nKEY_INITIAL_CHARS\nHEXDIGIT_CHARS\nBASIC_STR_ESCAPE_REPLACEMENTS\nFlags\nNestedDict\nOutput\nskip_chars\nskip_until\nskip_comment\nskip_comments_and_array_ws\ncreate_dict_rule\ncreate_list_rule\nkey_value_rule\nparse_key_value_pair\nparse_key\nparse_key_part\nparse_one_line_basic_str\nparse_array\nparse_inline_table\nparse_basic_str_escape\nparse_basic_str_escape_multiline\nparse_hex_char\nparse_literal_str\nparse_multiline_str\nparse_basic_str\nparse_value\nsuffixed_err\nis_unicode_scalar_value\nmake_safe_parse_float\ntomllib._re\n_TIME_RE_STR\ncached_tz\ntomllib._types\nprint_list\nformat_list\nprint_tb\nformat_tb\nextract_tb\n_cause_message\n_context_message\n_Sentinel\n_parse_value_tb\nprint_exception\nformat_exception_only\n_format_final_exc_line\n_safe_string\nprint_exc\nformat_exc\nprint_last\nprint_stack\nformat_stack\nextract_stack\nclear_frames\nFrameSummary\nwalk_stack\nwalk_tb\n_walk_tb_with_full_positions\n_RECURSIVE_CUTOFF\nStackSummary\n_byte_offset_to_character_offset\n_Anchors\n_extract_caret_anchors_from_line_segment\n_WIDE_CHAR_SPECIFIERS\n_display_width\n_ExceptionPrintContext\nTracebackException\nLambdaType\nCodeType\nSimpleNamespace\n_cell_factory\nCellType\nGeneratorType\nCoroutineType\nAsyncGeneratorType\nBuiltinFunctionType\nBuiltinMethodType\nWrapperDescriptorType\nMethodWrapperType\nMethodDescriptorType\nClassMethodDescriptorType\nGetSetDescriptorType\nMemberDescriptorType\nnew_class\nresolve_bases\nprepare_class\n_calculate_meta\n_GeneratorWrapper\nUnionType\nNoneType\nNotImplementedType\ntyping\nstdlib_re\n_type_convert\n_type_check\n_should_unflatten_callable_args\n_collect_parameters\n_check_generic\n_unpack_args\n_deduplicate\n_deduplicate_unhashable\n_compare_args_orderless\n_remove_dups_flatten\n_flatten_literal_params\n_cleanups\n_tp_cache\n_eval_type\n_Final\n_Immutable\n_NotIterable\n_SpecialForm\n_LiteralSpecialForm\n_AnyMeta\nNever\nSelf\nLiteralString\nTypeAlias\nConcatenate\nTypeGuard\nForwardRef\n_is_unpacked_typevartuple\n_is_typevar_like\n_PickleUsingNameMixin\n_BoundVarianceMixin\nTypeVarTuple\nParamSpecArgs\nParamSpecKwargs\nParamSpec\n_BaseGenericAlias\n_GenericAlias\n_SpecialGenericAlias\n_CallableType\n_TupleType\n_UnionGenericAlias\n_value_and_type_iter\n_LiteralGenericAlias\n_ConcatenateGenericAlias\nUnpack\n_UnpackGenericAlias\nGeneric\n_TypingEllipsis\n_TYPING_INTERNALS\n_SPECIAL_NAMES\nEXCLUDED_ATTRIBUTES\n_get_protocol_attrs\n_is_callable_members_only\n_no_init_or_replace_init\n_caller\n_allow_reckless_class_checks\n_PROTO_ALLOWLIST\n_ProtocolMeta\n_AnnotatedAlias\nAnnotated\nassert_type\n_allowed_types\nget_type_hints\n_strip_annotations\nget_origin\nget_args\nis_typeddict\n_ASSERT_NEVER_REPR_MAX_LENGTH\nassert_never\nno_type_check\nno_type_check_decorator\n_overload_dummy\n_overload_registry\nget_overloads\nclear_overloads\nfinal\nKT\nVT\nT_co\nV_co\nVT_co\nT_contra\nCT_co\nAnyStr\n_alias\nAbstractSet\nDeque\nFrozenSet\nAsyncContextManager\nSupportsInt\nSupportsFloat\nSupportsComplex\nSupportsBytes\nSupportsIndex\nSupportsAbs\nSupportsRound\n_make_nmtuple\n_prohibited\n_special\nNamedTupleMeta\n_NamedTuple\n_namedtuple_mro_entries\n_TypedDictMeta\nTypedDict\n_TypedDict\nRequired\nNotRequired\nNewType\n_DeprecatedType\nreveal_type\ndataclass_transform\nunicodedata\ndigit\nnumeric\ncategory\nbidirectional\ncombining\nmirrored\neast_asian_width\ndecomposition\nis_normalized\nunidata_version\nUCD\nucd_3_2_0\n_ucnhash_CAPI\nurllib.parse\nuses_relative\nuses_netloc\nuses_params\nnon_hierarchical\nuses_query\nuses_fragment\nscheme_chars\n_WHATWG_C0_CONTROL_OR_SPACE\n_UNSAFE_URL_BYTES_TO_REMOVE\n_implicit_encoding\n_implicit_errors\n_noop\n_encode_result\n_decode_args\n_coerce_args\n_ResultMixinStr\n_ResultMixinBytes\n_NetlocResultMixinBase\n_NetlocResultMixinStr\n_NetlocResultMixinBytes\n_DefragResultBase\n_SplitResultBase\n_ParseResultBase\nResultBase\nDefragResult\nSplitResult\nParseResult\nDefragResultBytes\nSplitResultBytes\nParseResultBytes\nurlparse\n_splitparams\n_splitnetloc\n_checknetloc\n_check_bracketed_host\nurlsplit\nurlunparse\nurlunsplit\nurljoin\nurldefrag\n_hexdig\n_hextobyte\nunquote_to_bytes\n_asciire\nparse_qs\nparse_qsl\nunquote_plus\n_ALWAYS_SAFE\n_ALWAYS_SAFE_BYTES\n_Quoter\nquote_plus\n_byte_quoter_factory\nquote_from_bytes\nurlencode\nto_bytes\n_to_bytes\nsplittype\n_typeprog\n_splittype\nsplithost\n_hostprog\n_splithost\nsplituser\n_splituser\nsplitpasswd\n_splitpasswd\nsplitport\n_portprog\n_splitport\nsplitnport\n_splitnport\nsplitquery\n_splitquery\nsplittag\n_splittag\nsplitattr\n_splitattr\nsplitvalue\n_splitvalue\nuuid\n_platform_system\n_AIX\n_LINUX\n_MAC_DELIM\n_MAC_OMITS_LEADING_ZEROES\nRESERVED_NCS\nRFC_4122\nRESERVED_MICROSOFT\nRESERVED_FUTURE\nint_\nbytes_\nSafeUUID\nUUID\n_get_command_stdout\n_is_universal\n_find_mac_near_keyword\n_parse_mac\n_find_mac_under_heading\n_ifconfig_getnode\n_ip_getnode\n_arp_getnode\n_lanscan_getnode\n_netstat_getnode\n_ipconfig_getnode\n_netbios_getnode\n_generate_time_safe\n_UuidCreate\n_has_uuid_generate_time_safe\n_load_system_functions\n_unix_getnode\n_windll_getnode\n_random_getnode\n_OS_GETTERS\n_GETTERS\ngetnode\n_last_timestamp\nuuid1\nuuid3\nuuid4\nuuid5\nNAMESPACE_DNS\nNAMESPACE_URL\nNAMESPACE_OID\nNAMESPACE_X500\nshowwarning\nformatwarning\n_showwarnmsg_impl\n_formatwarnmsg_impl\n_showwarning_orig\n_showwarnmsg\n_formatwarning_orig\n_formatwarnmsg\nfilterwarnings\nsimplefilter\n_add_filter\nresetwarnings\n_OptionError\n_processoptions\n_setoption\n_getaction\n_getcategory\n_next_external_frame\nWarningMessage\ncatch_warnings\n_DEPRECATED_MSG\n_deprecated\n_warn_unawaited_coroutine\ndefaultaction\nonceregistry\nProxyTypes\nWeakMethod\nWeakValueDictionary\nKeyedRef\nWeakKeyDictionary\nfinalize\nxml\ndom\netree\nsax\nxml.dom\nINDEX_SIZE_ERR\nDOMSTRING_SIZE_ERR\nHIERARCHY_REQUEST_ERR\nWRONG_DOCUMENT_ERR\nINVALID_CHARACTER_ERR\nNO_DATA_ALLOWED_ERR\nNO_MODIFICATION_ALLOWED_ERR\nNOT_FOUND_ERR\nNOT_SUPPORTED_ERR\nINUSE_ATTRIBUTE_ERR\nINVALID_STATE_ERR\nSYNTAX_ERR\nINVALID_MODIFICATION_ERR\nNAMESPACE_ERR\nINVALID_ACCESS_ERR\nVALIDATION_ERR\nDOMException\nIndexSizeErr\nDomstringSizeErr\nHierarchyRequestErr\nWrongDocumentErr\nInvalidCharacterErr\nNoDataAllowedErr\nNoModificationAllowedErr\nNotFoundErr\nNotSupportedErr\nInuseAttributeErr\nInvalidStateErr\nSyntaxErr\nInvalidModificationErr\nNamespaceErr\nInvalidAccessErr\nValidationErr\nUserDataHandler\nXML_NAMESPACE\nXMLNS_NAMESPACE\nXHTML_NAMESPACE\nEMPTY_NAMESPACE\nEMPTY_PREFIX\ndomreg\ngetDOMImplementation\nregisterDOMImplementation\nminicompat\nNodeFilter\nxmlbuilder\nminidom\nxml.dom.NodeFilter\nxml.dom.domreg\nwell_known_implementations\nregistered\n_good_enough\n_parse_feature_string\nxml.dom.minicompat\nStringTypes\nNodeList\nEmptyNodeList\ndefproperty\nxml.dom.minidom\nDOMImplementationLS\nDocumentLS\n_nodeTypes_with_children\n_append_child\n_in_document\n_write_data\n_get_elements_by_tagName_helper\n_get_elements_by_tagName_ns_helper\nDocumentFragment\nAttr\nNamedNodeMap\nAttributeList\nTypeInfo\n_no_type\n_set_attribute_node\nChildless\nProcessingInstruction\nCharacterData\n_get_containing_element\n_get_containing_entref\nCDATASection\nReadOnlySequentialNamedNodeMap\nIdentified\nDocumentType\nEntity\nNotation\nDOMImplementation\nElementInfo\n_clear_id_cache\nDocument\n_clone_node\n_nssplit\n_do_pulldom_parse\nparseString\nxml.dom.xmlbuilder\nOptions\nDOMBuilder\n_name_xform\nDOMEntityResolver\nDOMInputSource\nDOMBuilderFilter\nxml.etree\nElementPath\nElementTree\nxml.etree.ElementPath\nxpath_tokenizer_re\nxpath_tokenizer\nget_parent_map\n_is_wildcard_tag\n_prepare_tag\nprepare_child\nprepare_star\nprepare_self\nprepare_descendant\nprepare_parent\nprepare_predicate\nops\n_SelectorContext\niterfind\nfindtext\nxml.etree.ElementTree\nVERSION\niselement\nPI\nQName\n_get_writer\n_namespaces\n_serialize_xml\nHTML_EMPTY\n_serialize_html\n_serialize_text\n_serialize\nregister_namespace\n_namespace_map\n_raise_serialization_error\n_escape_cdata\n_escape_attrib\n_escape_attrib_html\ntostring\n_ListDataStream\ntostringlist\niterparse\nXMLPullParser\nXML\nXMLID\nfromstring\nfromstringlist\ncanonicalize\n_looks_like_prefix_name\nC14NWriterTarget\n_escape_cdata_c14n\n_escape_attrib_c14n\n_Element_Py\nxml.sax\nhandler\n_exceptions\nxmlreader\nInputSource\nContentHandler\nErrorHandler\nSAXException\nSAXNotRecognizedException\nSAXParseException\nSAXNotSupportedException\nSAXReaderNotAvailable\ndefault_parser_list\n_key\nmake_parser\n_create_parser\nxml.sax._exceptions\nxml.sax.handler\nDTDHandler\nEntityResolver\nfeature_namespaces\nfeature_namespace_prefixes\nfeature_string_interning\nfeature_validation\nfeature_external_ges\nfeature_external_pes\nall_features\nproperty_lexical_handler\nproperty_declaration_handler\nproperty_dom_node\nproperty_xml_string\nproperty_encoding\nproperty_interning_dict\nall_properties\nLexicalHandler\nxml.sax.xmlreader\nXMLReader\nIncrementalParser\nLocator\nAttributesImpl\nAttributesNSImpl\nBadZipFile\nLargeZipFile\nBadZipfile\nZIP64_LIMIT\nZIP_FILECOUNT_LIMIT\nZIP_MAX_COMMENT\nZIP_STORED\nZIP_DEFLATED\nZIP_BZIP2\nZIP_LZMA\nDEFAULT_VERSION\nZIP64_VERSION\nBZIP2_VERSION\nLZMA_VERSION\nMAX_EXTRACT_VERSION\nstructEndArchive\nstringEndArchive\nsizeEndCentDir\n_ECD_SIGNATURE\n_ECD_DISK_NUMBER\n_ECD_DISK_START\n_ECD_ENTRIES_THIS_DISK\n_ECD_ENTRIES_TOTAL\n_ECD_SIZE\n_ECD_OFFSET\n_ECD_COMMENT_SIZE\n_ECD_COMMENT\n_ECD_LOCATION\nstructCentralDir\nstringCentralDir\nsizeCentralDir\n_CD_SIGNATURE\n_CD_CREATE_VERSION\n_CD_CREATE_SYSTEM\n_CD_EXTRACT_VERSION\n_CD_EXTRACT_SYSTEM\n_CD_FLAG_BITS\n_CD_COMPRESS_TYPE\n_CD_TIME\n_CD_DATE\n_CD_CRC\n_CD_COMPRESSED_SIZE\n_CD_UNCOMPRESSED_SIZE\n_CD_FILENAME_LENGTH\n_CD_EXTRA_FIELD_LENGTH\n_CD_COMMENT_LENGTH\n_CD_DISK_NUMBER_START\n_CD_INTERNAL_FILE_ATTRIBUTES\n_CD_EXTERNAL_FILE_ATTRIBUTES\n_CD_LOCAL_HEADER_OFFSET\n_MASK_ENCRYPTED\n_MASK_COMPRESS_OPTION_1\n_MASK_USE_DATA_DESCRIPTOR\n_MASK_COMPRESSED_PATCH\n_MASK_STRONG_ENCRYPTION\n_MASK_UTF_FILENAME\nstructFileHeader\nstringFileHeader\nsizeFileHeader\n_FH_SIGNATURE\n_FH_EXTRACT_VERSION\n_FH_EXTRACT_SYSTEM\n_FH_GENERAL_PURPOSE_FLAG_BITS\n_FH_COMPRESSION_METHOD\n_FH_LAST_MOD_TIME\n_FH_LAST_MOD_DATE\n_FH_CRC\n_FH_COMPRESSED_SIZE\n_FH_UNCOMPRESSED_SIZE\n_FH_FILENAME_LENGTH\n_FH_EXTRA_FIELD_LENGTH\nstructEndArchive64Locator\nstringEndArchive64Locator\nsizeEndCentDir64Locator\nstructEndArchive64\nstringEndArchive64\nsizeEndCentDir64\n_CD64_SIGNATURE\n_CD64_DIRECTORY_RECSIZE\n_CD64_CREATE_VERSION\n_CD64_EXTRACT_VERSION\n_CD64_DISK_NUMBER\n_CD64_DISK_NUMBER_START\n_CD64_NUMBER_ENTRIES_THIS_DISK\n_CD64_NUMBER_ENTRIES_TOTAL\n_CD64_DIRECTORY_SIZE\n_CD64_OFFSET_START_CENTDIR\n_DD_SIGNATURE\n_EXTRA_FIELD_STRUCT\n_strip_extra\n_check_zipfile\nis_zipfile\n_EndRecData64\n_EndRecData\nZipInfo\n_crctable\n_gen_crc\n_ZipDecrypter\ncompressor_names\n_check_compression\n_get_compressor\n_get_decompressor\n_SharedFile\n_Tellable\nZipExtFile\n_ZipWriteFile\nZipFile\nPyZipFile\n_parents\n_ancestry\n_dedupe\n_difference\nCompleteDirs\nFastLookup\n_extract_text_encoding\nalt_path_sep\nZipImportError\n_zip_directory_cache\n_module_type\nEND_CENTRAL_DIR_SIZE\nSTRING_END_ARCHIVE\nMAX_COMMENT_LEN\n_zip_searchorder\n_get_module_path\n_is_dir\n_get_module_info\n_read_directory\ncp437_table\n_importing_zlib\n_get_decompress_func\n_get_data\n_eq_mtime\n_unmarshal_code\n_normalize_line_endings\n_compile_source\n_parse_dostime\n_get_mtime_and_size_of_source\n_get_pyc_source\n_get_module_code\nadler32\ncompressobj\ndecompressobj\nMAX_WBITS\nDEFLATED\nDEF_MEM_LEVEL\nDEF_BUF_SIZE\nZ_NO_COMPRESSION\nZ_BEST_SPEED\nZ_BEST_COMPRESSION\nZ_DEFAULT_COMPRESSION\nZ_FILTERED\nZ_HUFFMAN_ONLY\nZ_RLE\nZ_FIXED\nZ_DEFAULT_STRATEGY\nZ_NO_FLUSH\nZ_PARTIAL_FLUSH\nZ_SYNC_FLUSH\nZ_FULL_FLUSH\nZ_FINISH\nZ_BLOCK\nZ_TREES\nZLIB_VERSION\nZLIB_RUNTIME_VERSION\nmodule\n__new__\n__repr__\n__getattribute__\n__setattr__\n__delattr__\n__init__\n__dict__\n__text_signature__\n__hash__\n__str__\n__iter__\n__rmod__\n__len__\n__rmul__\nrsplit\ncapitalize\ncasefold\ntitle\ncenter\nexpandtabs\npartition\nljust\nlower\nlstrip\nrfind\nrindex\nrjust\nrstrip\nrpartition\nsplitlines\nstrip\nswapcase\nupper\nstartswith\nendswith\nremoveprefix\nremovesuffix\nisascii\nislower\nisupper\nistitle\nisspace\nisdecimal\nisdigit\nisnumeric\nisalpha\nisalnum\nisidentifier\nisprintable\nzfill\nformat_map\n__format__\nmaketrans\n__sizeof__\n__getnewargs__\n__module__\n_ORIGIN\nmodule_repr\nfind_module\ncreate_module\nexec_module\nget_code\nget_source\nis_package\nload_module\n__weakref__\nloader\norigin\nloader_state\nsubmodule_search_locations\n_uninitialized_submodules\n_set_fileattr\n_cached\n_initializing\ncached\n__radd__\n__rsub__\n__divmod__\n__rdivmod__\n__rpow__\n__bool__\n__rlshift__\n__rrshift__\n__rand__\n__rxor__\n__ror__\n__int__\n__float__\n__rfloordiv__\n__rtruediv__\nconjugate\nbit_length\nbit_count\nfrom_bytes\nas_integer_ratio\n__trunc__\n__floor__\n__ceil__\n__round__\nreal\nimag\nnumerator\ndenominator\nmro\n__subclasses__\n__prepare__\n__instancecheck__\n__subclasscheck__\n__basicsize__\n__itemsize__\n__flags__\n__weakrefoffset__\n__base__\n__dictoffset__\n__mro__\n__qualname__\n__bases__\n__abstractmethods__\n__reduce_ex__\n__reduce__\n__getstate__\n__subclasshook__\n__init_subclass__\n__class__\ngetset_descriptor\n__get__\n__set__\n__delete__\n__objclass__\nmember_descriptor\nmethod_descriptor\nwrapper_descriptor\nclassmethod_descriptor\nbuiltin_function_or_method\n__self__\n__setstate__\nwith_traceback\nadd_note\n__suppress_context__\nargs\n__traceback__\n__context__\n__cause__\nparent\nhas_location\n__reversed__\nclear\nappend\ninsert\nextend\npop\nreverse\nsort\n__class_getitem__\n__kwdefaults__\nfget\nfset\ngetter\nsetter\ndeleter\n__set_name__\nfdel\n__isabstractmethod__\nfunction\n__closure__\n__globals__\n__code__\n__defaults__\nget\nsetdefault\npopitem\nkeys\nitems\nvalues\nupdate\nfromkeys\n__func__\n__wrapped__\nNone.None\n_resolve_filename\n_SEP\n__bytes__\nfromhex\nget_filename\nco_lines\nco_positions\n_varname_from_oparg\nco_argcount\nco_posonlyargcount\nco_kwonlyargcount\nco_stacksize\nco_flags\nco_nlocals\nco_consts\nco_names\nco_filename\nco_name\nco_qualname\nco_firstlineno\nco_linetable\nco_exceptiontable\nco_lnotab\n_co_code_adaptive\nco_varnames\nco_cellvars\nco_freevars\nco_code\nmsg\norigname\ntypes.SimpleNamespace\n_struct.Struct\nsize\n__slots__\nFileHeader\n_encodeFilenameFlags\n_decodeExtra\nfrom_file\nis_dir\nCRC\n_compresslevel\n_end_offset\n_raw_time\ncomment\ncompress_size\ncompress_type\ncreate_system\ncreate_version\ndate_time\nexternal_attr\nextra\nextract_version\nfile_size\nflag_bits\nheader_offset\ninternal_attr\norig_filename\nreserved\nvolume\n_init\nflush\ntell\nseek\nMAX_N\nMIN_READ_SIZE\nMAX_SEEK_READ\n_init_decrypter\nreadline\npeek\nreadable\n_update_crc\nread1\n_read1\n_read2\nseekable\n_abc_impl\n_fileobj\nwritable\nfp\n_windows_illegal_name_trans_table\n__enter__\n__exit__\n_RealGetContents\nnamelist\ninfolist\nprintdir\ntestzip\ngetinfo\nsetpassword\n_open_to_write\nextract\nextractall\n_sanitize_windows_name\n_extract_member\n_writecheck\nwritestr\n__del__\n_write_end_record\n_fpclose\nwritepy\n_get_codename\n_implied_dirs\n_name_set\nresolve_dir\nmake\n_Path__repr\nsuffix\nsuffixes\nstem\nread_bytes\n_is_child\n_next\nis_file\niterdir\njoinpath\n_dump_registry\n_abc_registry_clear\n_abc_caches_clear\n_io._BufferedIOBase\ndetach\nreadinto\nreadinto1\n_io._IOBase\n__next__\n_checkClosed\n_checkSeekable\n_checkReadable\n_checkWritable\nreadlines\nwritelines\nclosed\ndifference\nintersection\nisdisjoint\nissubset\nissuperset\nsymmetric_difference\nunion\n_abc._abc_data\n_abc_data\npath_stats\n_cache_bytecode\nset_data\npath_mtime\nsource_to_code\ngetContentHandler\nsetContentHandler\ngetDTDHandler\nsetDTDHandler\ngetEntityResolver\nsetEntityResolver\ngetErrorHandler\nsetErrorHandler\nsetLocale\ngetFeature\nsetFeature\ngetProperty\nsetProperty\nfeed\nprepareParser\nreset\ngetColumnNumber\ngetLineNumber\ngetPublicId\ngetSystemId\nsetPublicId\nsetSystemId\nsetEncoding\ngetEncoding\nsetByteStream\ngetByteStream\nsetCharacterStream\ngetCharacterStream\ngetLength\ngetType\ngetValue\ngetValueByQName\ngetNameByQName\ngetQNameByName\ngetNames\ngetQNames\ngetMessage\ngetException\nfatalError\nsetDocumentLocator\nstartDocument\nendDocument\nstartPrefixMapping\nendPrefixMapping\nstartElement\nendElement\nstartElementNS\nendElementNS\ncharacters\nignorableWhitespace\nprocessingInstruction\nskippedEntity\nnotationDecl\nunparsedEntityDecl\nresolveEntity\nstartDTD\nendDTD\nstartCDATA\nendCDATA\nxml.etree.ElementTree.Element\nitertext\nmakeelement\n__copy__\n__deepcopy__\ntag\ntail\nattrib\ngetroot\n_setroot\nwrite_c14n\ndiscard\ndifference_update\nintersection_update\nsymmetric_difference_update\n_close_and_return_root\nread_events\nxml.etree.ElementTree.TreeBuilder\ndata\nstart\nend\nxml.etree.ElementTree.XMLParser\n_parse_whole\n_setevents\nentity\ntarget\n_iter_namespaces\n_resolve_prefix_name\n_qname\n_flush\nstart_ns\n_start\n_assert_is_element\nbuiltin_method\nre.Pattern\ngroups\ngroupindex\noffset\nend_lineno\nend_offset\nprint_file_and_line\nparent_map\nnamespaces\nnamespace_declarations\nvalidation\nexternal_parameter_entities\nexternal_general_entities\nexternal_dtd_subset\nvalidate_if_schema\nvalidate\ndatatype_normalization\ncreate_entity_ref_nodes\nwhitespace_in_element_content\ncdata_sections\ncomments\ncharset_overrides_xml_encoding\ninfoset\nsupported_mediatypes_only\nerrorHandler\nentityResolver\nACTION_REPLACE\nACTION_APPEND_AS_CHILDREN\nACTION_INSERT_AFTER\nACTION_INSERT_BEFORE\n_legal_actions\n_get_entityResolver\n_set_entityResolver\n_get_errorHandler\n_set_errorHandler\n_get_filter\n_set_filter\nsupportsFeature\ncanSetFeature\n_settings\nparseURI\nparseWithContext\n_parse_bytestream\n_get_opener\n_create_opener\n_guess_media_encoding\n_opener\n_get_byteStream\n_set_byteStream\n_get_characterStream\n_set_characterStream\n_get_stringData\n_set_stringData\n_get_encoding\n_set_encoding\n_get_publicId\n_set_publicId\n_get_systemId\n_set_systemId\n_get_baseURI\n_set_baseURI\nbaseURI\nbyteStream\ncharacterStream\nencoding\npublicId\nstringData\nsystemId\nFILTER_ACCEPT\nFILTER_REJECT\nFILTER_SKIP\nFILTER_INTERRUPT\nwhatToShow\n_get_whatToShow\nacceptNode\nstartContainer\nasync_\n_get_async\n_set_async\nloadXML\nsaveXML\nMODE_SYNCHRONOUS\nMODE_ASYNCHRONOUS\ncreateDOMBuilder\ncreateDOMWriter\ncreateDOMInputSource\nitem\n_get_length\n_set_length\nlength\nnamespaceURI\nparentNode\nownerDocument\nnextSibling\npreviousSibling\ntoxml\ntoprettyxml\nhasChildNodes\n_get_childNodes\n_get_firstChild\n_get_lastChild\ninsertBefore\nappendChild\nreplaceChild\nremoveChild\ncloneNode\nisSupported\n_get_localName\nisSameNode\ngetInterface\ngetUserData\nsetUserData\n_call_user_data_handler\nfirstChild\nlastChild\nlocalName\nnodeType\nnodeName\nnodeValue\nattributes\n_child_node_types\nspecified\n_is_id\n_get_specified\n_get_name\n_set_name\n_get_value\n_set_value\nvalue\n_get_prefix\n_set_prefix\n_get_isId\n_get_schemaType\n_localName\n_name\n_prefix\n_value\nchildNodes\nownerElement\nisId\nschemaType\nitemsNS\nkeysNS\ngetNamedItem\ngetNamedItemNS\nremoveNamedItem\nremoveNamedItemNS\nsetNamedItem\nsetNamedItemNS\n_attrs\n_attrsNS\n_ownerElement\n_get_namespace\nnamespace\n_magic_id_nodes\n_ensure_attributes\n_get_tagName\ngetAttribute\ngetAttributeNS\nsetAttribute\nsetAttributeNS\ngetAttributeNode\ngetAttributeNodeNS\nsetAttributeNode\nsetAttributeNodeNS\nremoveAttribute\nremoveAttributeNS\nremoveAttributeNode\nremoveAttributeNodeNS\nhasAttribute\nhasAttributeNS\ngetElementsByTagName\ngetElementsByTagNameNS\nwritexml\n_get_attributes\nhasAttributes\nsetIdAttribute\nsetIdAttributeNS\nsetIdAttributeNode\ntagName\n_get_nodeValue\n_set_nodeValue\n_get_nodeName\n_set_nodeName\n_set_data\nsubstringData\nappendData\ninsertData\ndeleteData\nreplaceData\n_data\nsplitText\n_get_wholeText\nreplaceWholeText\n_get_isWhitespaceInElementContent\nisWhitespaceInElementContent\nwholeText\n_seq\n_identified_mixin_init\ninternalSubset\n_get_internalSubset\nactualEncoding\n_get_actualEncoding\n_get_version\nhasFeature\ncreateDocument\ncreateDocumentType\n_create_document\ngetAttributeType\ngetAttributeTypeNS\nisElementContent\nisEmpty\nisIdNS\nstandalone\nstrictErrorChecking\ndocumentURI\n_magic_id_count\n_get_elem_info\n_get_doctype\n_get_documentURI\n_get_standalone\n_get_strictErrorChecking\n_get_documentElement\ncreateDocumentFragment\ncreateElement\ncreateTextNode\ncreateCDATASection\ncreateComment\ncreateProcessingInstruction\ncreateAttribute\ncreateElementNS\ncreateAttributeNS\n_create_entity\n_create_notation\ngetElementById\nimportNode\nrenameNode\n_elem_info\n_id_cache\n_id_search_stack\ndoctype\ndocumentElement\nELEMENT_NODE\nATTRIBUTE_NODE\nTEXT_NODE\nCDATA_SECTION_NODE\nENTITY_REFERENCE_NODE\nENTITY_NODE\nPROCESSING_INSTRUCTION_NODE\nCOMMENT_NODE\nDOCUMENT_NODE\nDOCUMENT_TYPE_NODE\nDOCUMENT_FRAGMENT_NODE\nNOTATION_NODE\ndefproperty.<locals>\nSHOW_ALL\nSHOW_ELEMENT\nSHOW_ATTRIBUTE\nSHOW_TEXT\nSHOW_CDATA_SECTION\nSHOW_ENTITY_REFERENCE\nSHOW_ENTITY\nSHOW_PROCESSING_INSTRUCTION\nSHOW_COMMENT\nSHOW_DOCUMENT\nSHOW_DOCUMENT_TYPE\nSHOW_DOCUMENT_FRAGMENT\nSHOW_NOTATION\n_get_code\nNODE_CLONED\nNODE_IMPORTED\nNODE_DELETED\nNODE_RENAMED\nweakref.ReferenceType\n__callback__\nweakref.CallableProxyType\n__rmatmul__\nweakref.ProxyType\n_commit_removals\n_alive\n_func_ref\n_meth_type\nitervaluerefs\nvaluerefs\nkey\n_scrub_removals\nkeyrefs\n_index_iter\n_dirty\n_registered_with_atexit\n_Info\nalive\n_select_for_exit\n_exitfunc\nitertools.count\nfinalize._Info\nfunc\nkwargs\n_MutableMapping__marker\ntypes.GenericAlias\n__mro_entries__\n__origin__\n__args__\n__unpacked__\n__parameters__\n__typing_unpacked_tuple_args__\n_WARNING_DETAILS\n_generate_next_value_\n_missing_\n_new_member_\n_use_args_\n_member_names_\n_member_map_\n_value2member_map_\n_unhashable_values_\n_member_type_\n_value_repr_\nsafe\nunsafe\nunknown\nbytes_le\ntime_low\ntime_mid\ntime_hi_version\nclock_seq_hi_variant\nclock_seq_low\nclock_seq\nurn\nvariant\nis_safe\n__members__\n_create_\n_convert_\n_check_for_existing_members_\n_get_mixins_\n_find_data_repr_\n_find_data_type_\n_find_new_\noverwrite_doc\nclsname\n_value_\n_name_\n_sort_order_\nThis object has no __weakref__\nusername\npassword\nhostname\nport\n_userinfo\n_hostinfo\n_fields\n_field_defaults\n_make\n_replace\n_asdict\n__match_args__\nurl\nfragment\nscheme\nnetloc\nquery\nparams\ngeturl\n_encoded_counterpart\n_decoded_counterpart\ncache_parameters\n__missing__\nfunctools._lru_cache_wrapper\ncache_info\ncache_clear\nlru_cache.<locals>\n<lambda>\nlru_cache.<locals>.decorating_function.<locals>\n_collections._tuplegetter\nnamedtuple_ParseResult\nnamedtuple_SplitResult\nnamedtuple_DefragResult\nunicodedata.UCD\nPyCapsule\ncollections.defaultdict\ndefault_factory\nmethod\x2dwrapper\n_getitem\n_evaluate\n__forward_arg__\n__forward_code__\n__forward_evaluated__\n__forward_is_argument__\n__forward_is_class__\n__forward_module__\n__forward_value__\n__typing_subst__\n__typing_prepare_subst__\n_determine_new_args\n_make_substitution\ncopy_with\n__getitem_inner__\n__typing_is_unpacked_typevartuple__\n_is_protocol\n_is_runtime_protocol\n_class_getitem_inner\n__covariant__\n__contravariant__\n__bound__\n__constraints__\n_nparams\n__complex__\n__orig_bases__\nbuffer\nline_buffering\nnewlines\ntyping.io\ntyping.re\nre.Match\nspan\ngroupdict\nexpand\nendpos\nlastindex\nlastgroup\nregs\nProtocol.__init_subclass__.<locals>\n_proto_hook\n__anext__\nasend\nathrow\naclose\n__aiter__\nsend\nthrow\nnew_child\nparents\ntotal\nmost_common\nelements\nsubtract\n_keep_positive\ncollections.OrderedDict\nmove_to_end\n__aenter__\n__aexit__\n_mapping\n_from_iterable\n_hash\ncollections.deque\nappendleft\nextendleft\npopleft\nrotate\nmaxlen\n__await__\ncell\ncell_contents\ngi_code\ngi_yieldfrom\ngi_running\ngi_frame\ngi_suspended\ncr_code\ncr_origin\ncr_await\ncr_running\ncr_frame\ncr_suspended\nag_running\nag_code\nag_await\nag_frame\nmethod\ntb_frame\ntb_lasti\ntb_next\ntb_lineno\nframe\nf_trace_lines\nf_trace_opcodes\nf_back\nf_locals\nf_lineno\nf_trace\nf_lasti\nf_globals\nf_builtins\nf_code\ntypes.UnionType\nellipsis\n_original_line\nline\n_line\ncolno\nend_colno\n_extract_from_extended_frame_gen\nfrom_list\nformat_frame_summary\nleft_end_offset\nright_start_offset\nprimary_char\nsecondary_char\nemit\nfrom_exception\n_load_lines\n_format_syntax_error\nnamedtuple__Anchors\n_paramspec_tvars\noptional\nmandatory\ncompiler_flag\ndatetime.date\nfromtimestamp\nfromordinal\nfromisoformat\nfromisocalendar\ntoday\ntimetuple\nisocalendar\nisoformat\nisoweekday\ntoordinal\nyear\nday\nresolution\ndatetime.datetime\nnow\nutcnow\nutcfromtimestamp\ncombine\ntimetz\ntimestamp\nutctimetuple\nutcoffset\ndst\nastimezone\nhour\nminute\nsecond\nmicrosecond\nfold\ndatetime.time\ndatetime.timedelta\ntotal_seconds\ndays\nseconds\nmicroseconds\ndatetime.timezone\nfromutc\n__getinitargs__\nutc\ndatetime.tzinfo\ngetOptionalRelease\ngetMandatoryRelease\nFROZEN\nEXPLICIT_NEST\nadd_pending\nfinalize_pending\nunset_all\nget_or_create_nest\nappend_nest_to_list\nnamedtuple_Output\n_io.TextIOWrapper\nwrite_through\n_finalizing\n_CHUNK_SIZE\nexact_type\nadd_whitespace\ncompat\nnamedtuple_TokenInfo\n_io._TextIOBase\nautorange\ntime.struct_time\ntm_year\ntm_mon\ntm_mday\ntm_hour\ntm_min\ntm_sec\ntm_wday\ntm_yday\ntm_isdst\ntm_zone\ntm_gmtoff\nn_sequence_fields\nn_fields\nn_unnamed_fields\nitertools.islice\n_thread.RLock\nacquire\n_is_owned\n_acquire_restore\n_release_save\n_recursion_count\n_at_fork_reinit\nis_integer\n__getformat__\nwait_for\nnotify\nnotify_all\nnotifyAll\nis_set\nisSet\n_enter\n_release\n_wait\n_break\nparties\nn_waiting\nbroken\n_remove\n_pending_removals\n_iterating\n_thread.lock\nlock\nlocked_lock\nlocked\n_initialized\n_reset_internal_locks\n_set_ident\n_set_native_id\n_set_tstate_lock\n_bootstrap_inner\n_stop\n_delete\n_wait_for_tstate_lock\nident\nnative_id\nis_alive\ndaemon\nisDaemon\nsetDaemon\ngetName\nsetName\n_thread._ExceptHookArgs\nexc_type\nexc_value\nexc_traceback\ncancel\n_target\n_args\n_kwargs\n_daemonic\n_ident\n_native_id\n_tstate_lock\n_started\n_is_stopped\n_stderr\n_invoke_excepthook\n_thread._local\n_cond\n_flag\n_make_invoke_excepthook.<locals>\ninvoke_excepthook\n_io.FileIO\nreadall\n_dealloc_warn\n_blksize\nclosefd\n_io._RawIOBase\n_waiters\nWeakSet.__init__.<locals>\nunicode_whitespace_trans\nwordsep_re\nwordsep_simple_re\nsentence_end_re\n_munge_whitespace\n_split\n_fix_sentence_endings\n_handle_long_word\n_wrap_chunks\n_split_chunks\n_randbelow_with_getrandbits\n_randbelow_without_getrandbits\n_randbelow\nrng\nfile\nclose_called\n_rolled\n_check\nrollover\n_rmtree\ncleanup\n_random.Random\nsys.float_info\nmax_exp\nmax_10_exp\nmin_exp\nmin_10_exp\ndig\nmant_dig\nepsilon\nradix\nrounds\nsys.int_info\nbits_per_digit\nsizeof_digit\ndefault_max_str_digits\nstr_digits_check_threshold\nsys.hash_info\nwidth\nmodulus\nalgorithm\nhash_bits\nseed_bits\ncutoff\nsys.version_info\nmicro\nreleaselevel\nserial\ncache_tag\n_multiarch\nsys.flags\ninteractive\noptimize\nno_user_site\nno_site\nignore_environment\nverbose\nbytes_warning\nquiet\nhash_randomization\nisolated\ndev_mode\nutf8_mode\nwarn_default_encoding\nsafe_path\nint_max_str_digits\nsys.thread_info\nenablerlcompleter.<locals>\nregister_readline\n_io.BufferedReader\nraw\n_selector_cls\n_EVENT_READ\n_EVENT_WRITE\ncheck_returncode\n_child_created\nuniversal_newlines\n_translate_newlines\n_get_devnull\n_stdin_write\ncommunicate\n_remaining_time\n_close_pipe_fds\n_on_error_fd_closer\n_get_handles\n_posix_spawn\n_execute_child\n_handle_exitstatus\n_internal_poll\n_try_wait\n_communicate\n_save_input\nsend_signal\nterminate\nmodify\n_fileobj_lookup\nget_map\n_key_from_fd\nget_key\ndelimiter\nidpattern\nbraceidpattern\n_invalid\nsubstitute\nsafe_substitute\nis_valid\nget_identifiers\nvformat\n_vformat\nget_value\ncheck_unused_args\nformat_field\nconvert_field\nget_field\n_boundary_\n_flag_mask_\n_all_bits_\n_singles_mask_\n_inverted_\n_numeric_repr_\n_iter_member_\n_iter_member_by_value_\n_iter_member_by_def_\n__new_member__\nfrom_float\nfrom_decimal\nlimit_denominator\n_operator_fallbacks\n_add\n_sub\n_mul\n_div\n_floordiv\n_divmod\n_mod\n_richcmp\n_denominator\n_numerator\ndecimal.Decimal\nln\nnext_minus\nnext_plus\nto_integral\nto_integral_exact\nto_integral_value\ncompare\ncompare_signal\nmax_mag\nmin_mag\nnext_toward\nquantize\nremainder_near\nfma\nis_canonical\nis_finite\nis_infinite\nis_nan\nis_qnan\nis_snan\nis_signed\nis_zero\nis_normal\nis_subnormal\nadjusted\ncanonical\ncopy_abs\ncopy_negate\nlogb\nlogical_invert\nnumber_class\nto_eng_string\ncompare_total\ncompare_total_mag\ncopy_sign\nsame_quantum\nlogical_and\nlogical_or\nlogical_xor\nscaleb\nshift\nas_tuple\nitertools.groupby\nitertools.repeat\n__length_hint__\nslope\nintercept\nfrom_samples\nsamples\npdf\ncdf\ninv_cdf\noverlap\nzscore\n_mu\n_sigma\nnamedtuple_LinearRegression\nFraction._operator_fallbacks.<locals>\nforward\nserver_activate\nserve_forever\nservice_actions\nhandle_request\n_handle_request_noblock\nhandle_timeout\nverify_request\nprocess_request\nserver_close\nfinish_request\nshutdown_request\nclose_request\nhandle_error\naddress_family\nsocket_type\nrequest_queue_size\nallow_reuse_address\nallow_reuse_port\nserver_bind\nget_request\nmax_packet_size\nmax_children\nblock_on_close\ncollect_children\npop_all\nreap\ndaemon_threads\n_threads\nprocess_request_thread\nsetup\nhandle\nfinish\nrbufsize\nwbufsize\ndisable_nagle_algorithm\nfilename2\ncharacters_written\n_socket.socket\n_accept\nbind\nconnect\nconnect_ex\ngetpeername\ngetsockname\ngetsockopt\nrecv\nrecv_into\nrecvfrom\nrecvfrom_into\nsendall\nsendto\nsetblocking\ngetblocking\nsettimeout\ngettimeout\nsetsockopt\nrecvmsg\nrecvmsg_into\nsendmsg\nsendmsg_afalg\nfamily\nproto\naccept\nmakefile\n_sendfile_use_sendfile\n_sendfile_use_send\n_check_sendfile_params\n_decref_socketios\n_real_close\n_closed\n_io_refs\nitimer_error\nsignal.struct_siginfo\nsi_signo\nsi_code\nsi_errno\nsi_pid\nsi_uid\nsi_status\nsi_band\navoids_symlink_attacks\nusage\nused\nfree\nnamedtuple_usage\n_io.StringIO\ngetvalue\npunctuation_chars\npush_token\npush_source\npop_source\nget_token\nread_token\nsourcehook\nerror_leader\nfileobj\nfd\nevents\n_select\nselect.epoll\nnamedtuple_SelectorKey\n_notimplemented\ngauss_next\npriority\nsequence\naction\nargument\nenterabs\nenter\nempty\nnamedtuple_Event\n_real\nstyles\nstubs\n_style_map\nSTYLE_ATTRIBUTES\nnull\nfrom_color\nfrom_meta\non\nbold\ndim\nitalic\nunderline\nblink\nblink2\nconceal\nstrike\nunderline2\nencircle\noverline\nlink_id\n_make_ansi_codes\npick_first\n__rich_repr__\nbgcolor\ntransparent_background\nbackground_style\nmeta\nwithout_color\nget_html_style\nclear_meta_and_links\nupdate_link\n_ansi\n_attributes\n_bgcolor\n_color\n_link\n_link_id\n_null\n_set_attributes\n_style_definition\npush_theme\npop_theme\n'NoneType' object has no attribute '_set_attributes'\nauto.<locals>.do_replace.<locals>\nauto_repr\nbit\nfunctools.partial\nkeywords\n__vectorcalloffset__\noperator.itemgetter\n__rich_console__\njustify\n_repr_mimebundle_\nminimum\nmaximum\nwith_maximum\nwith_minimum\nclamp\ncell_length\nis_control\n_split_cells\nsplit_cells\napply_style\nfilter_control\nsplit_lines\nsplit_and_crop_lines\nadjust_line_length\nget_line_length\nget_shape\nset_shape\nalign_top\nalign_bottom\nalign_middle\nsimplify\nstrip_links\nstrip_styles\nremove_color\ndivide\nright_crop\nfrom_markup\nfrom_ansi\nassemble\nplain\nspans\nblank_copy\nstylize\nstylize_before\napply_meta\nremove_suffix\nget_style_at_offset\nextend_style\nhighlight_regex\nhighlight_words\nrstrip_end\nset_length\n__rich_measure__\nexpand_tabs\n_trim_spans\npad\npad_left\npad_right\nappend_text\nappend_tokens\ncopy_styles\nfit\ndetect_indentation\nwith_indent_guides\n_length\n_spans\nno_wrap\noverflow\ntab_size\nnamedtuple_Span\nangular\nnamedtuple_Segment\nnamedtuple_Measurement\nred\ngreen\nblue\nrgb\nnormalized\n__rich__\nbackground_color\nforeground_color\nansi_colors\n_colors\nnamedtuple_ColorTriplet\nfooter\nheader_style\nfooter_style\nvertical\nmin_width\nmax_width\nratio\nflexible\n__dataclass_params__\n__dataclass_fields__\nend_section\nrenderable\ngrid\n_extra_width\nrow_count\nget_row_style\nadd_column\nadd_row\nadd_section\n_calculate_column_widths\n_collapse_widths\n_get_cells\n_get_padding_width\n_measure_column\n_render\nnamedtuple__Cell\nfrozen\norder\nunsafe_hash\n__create_fn__.<locals>\nnumber\ntriplet\nis_system_defined\nis_default\nget_truecolor\nfrom_triplet\nfrom_rgb\ndefault\nget_ansi_codes\ndowngrade\nSTANDARD\nEIGHT_BIT\nTRUECOLOR\ncurrent\npush\n_stack\nnamedtuple_Color\nitertools.filterfalse\noperator.attrgetter\nlevel\npropagate\ndisabled\nmanager\nBELL\nCARRIAGE_RETURN\nHOME\nCLEAR\nSHOW_CURSOR\nHIDE_CURSOR\nENABLE_ALT_SCREEN\nDISABLE_ALT_SCREEN\nCURSOR_UP\nCURSOR_DOWN\nCURSOR_FORWARD\nCURSOR_BACKWARD\nCURSOR_MOVE_TO_COLUMN\nCURSOR_MOVE_TO\nERASE_IN_LINE\nSET_WINDOW_TITLE\nsetLevel\nfindCaller\nmakeRecord\naddHandler\nremoveHandler\nhasHandlers\ncallHandlers\ngetEffectiveLevel\nisEnabledFor\ngetChild\n_disable\nemittedNoHandlerWarning\nloggerDict\nloggerClass\nlogRecordFactory\n_fixupParents\n_fixupChildren\n_clear_cache\naddFilter\nremoveFilter\nbase_style\nhighlights\n_title\n_subtitle\nhighlight\nx\ny\nheight\nnamedtuple_Region\narray.array\nbyteswap\nfromfile\nfromlist\nfrombytes\nfromunicode\ntofile\ntolist\ntobytes\ntounicode\ntypecode\nitemsize\n_UserList__cast\nkey_repr\nvalue_repr\nopen_brace\nclose_brace\nlast\nis_tuple\nis_namedtuple\nchildren\nkey_separator\nseparator\niter_tokens\ncheck_length\nis_root\nexpanded\nexpandable\nnamedtuple__dummy_namedtuple\n__cast\n_box\ntop_left\ntop\ntop_divider\ntop_right\nhead_left\nhead_vertical\nhead_right\nhead_row_left\nhead_row_horizontal\nhead_row_cross\nhead_row_right\nmid_left\nmid_vertical\nmid_right\nrow_left\nrow_horizontal\nrow_cross\nrow_right\nfoot_row_left\nfoot_row_horizontal\nfoot_row_cross\nfoot_row_right\nfoot_left\nfoot_vertical\nfoot_right\nbottom_left\nbottom\nbottom_divider\nbottom_right\nget_plain_headed_box\nget_top\nget_row\nget_bottom\nshow\n_pager\nparameters\nnamedtuple_Tag\nJSON_STR\nJSON_WHITESPACE\nVARIANTS\n_char\nbell\nhome\nmove_to_column\nmove_to\nshow_cursor\nalt_screen\nitertools.zip_longest\nleft\nright\nascii_only\nupdate_width\nupdate_height\nreset_height\nupdate_dimensions\nrich.highlighter.None\nrenderables\nbuffer_index\nprocess_renderables\n_environ\n_buffer\n_buffer_index\n_theme_stack\n_detect_color_system\n_enter_buffer\n_exit_buffer\nset_live\nclear_live\npush_render_hook\npop_render_hook\nbegin_capture\nend_capture\nuse_theme\ncolor_system\nis_terminal\nis_dumb_terminal\noptions\ncapture\nstatus\nset_alt_screen\nis_alt_screen\nset_window_title\nrender_lines\nrender_str\nget_style\n_collect_renderables\nrule\nout\nupdate_screen\nupdate_screen_lines\n_caller_frame_info\n_check_buffer\n_render_buffer\nexport_text\nsave_text\nexport_html\nsave_html\nexport_svg\nsave_svg\nencodekey\ndecodekey\nencodevalue\ndecodevalue\n_createenviron.<locals>\nnamedtuple_ConsoleDimensions\nitertools.chain\nfrom_iterable\nminimum_size\nrepr1\n_repr_iterable\nrepr_tuple\nrepr_list\nrepr_array\nrepr_set\nrepr_frozenset\nrepr_deque\nrepr_dict\nrepr_str\nrepr_int\nrepr_instance\nfillvalue\nmaxlevel\nmaxtuple\nmaxlist\nmaxarray\nmaxdict\nmaxset\nmaxfrozenset\nmaxdeque\nmaxstring\nmaxlong\nmaxother\nopengroup\nclosegroup\ncheckgroup\nchecklookbehindgroup\ngetwidth\n_Tokenizer__next\ngetwhile\ngetuntil\ncheckgroupname\n__next\nscan\nitertools.accumulate\n_queue.SimpleQueue\nget_nowait\nput\nput_nowait\nqsize\ntask_done\nfull\n_qsize\n_put\n_get\nxml.parsers.expat\npyexpat.xmlparser\nxmlparser\nParse\nParseFile\nSetBase\nGetBase\nGetInputContext\nExternalEntityParserCreate\nSetParamEntityParsing\nUseForeignDTD\nSetReparseDeferralEnabled\nGetReparseDeferralEnabled\nErrorCode\nErrorLineNumber\nErrorColumnNumber\nErrorByteIndex\nCurrentLineNumber\nCurrentColumnNumber\nCurrentByteIndex\nbuffer_size\nbuffer_text\nbuffer_used\nnamespace_prefixes\nordered_attributes\nspecified_attributes\nStartElementHandler\nEndElementHandler\nProcessingInstructionHandler\nCharacterDataHandler\nUnparsedEntityDeclHandler\nNotationDeclHandler\nStartNamespaceDeclHandler\nEndNamespaceDeclHandler\nCommentHandler\nStartCdataSectionHandler\nEndCdataSectionHandler\nDefaultHandler\nDefaultHandlerExpand\nNotStandaloneHandler\nExternalEntityRefHandler\nStartDoctypeDeclHandler\nEndDoctypeDeclHandler\nEntityDeclHandler\nXmlDeclHandler\nElementDeclHandler\nAttlistDeclHandler\nSkippedEntityHandler\nobj\n_pprint_dataclass\n_dispatch\n_pprint_dict\n_pprint_ordered_dict\n_pprint_list\n_pprint_tuple\n_pprint_set\n_pprint_str\n_pprint_bytes\n_pprint_bytearray\n_pprint_mappingproxy\n_pprint_simplenamespace\n_format_dict_items\n_format_namespace_items\n_format_items\n_pprint_default_dict\n_pprint_counter\n_pprint_chain_map\n_pprint_deque\n_pprint_user_dict\n_pprint_user_list\n_pprint_user_string\n_safe_repr\nposix.waitid_result\nos.stat_result\nst_mode\nst_ino\nst_dev\nst_nlink\nst_uid\nst_gid\nst_size\nst_atime\nst_mtime\nst_ctime\nst_atime_ns\nst_mtime_ns\nst_ctime_ns\nst_blksize\nst_blocks\nst_rdev\nos.statvfs_result\nf_bsize\nf_frsize\nf_blocks\nf_bfree\nf_bavail\nf_files\nf_ffree\nf_favail\nf_flag\nf_namemax\nf_fsid\nposix.sched_param\nsched_priority\nos.terminal_size\ncolumns\nlines\nposix.DirEntry\nis_symlink\ninode\n__fspath__\nposix.times_result\nuser\nchildren_user\nchildren_system\nelapsed\nposix.uname_result\nsysname\nnodename\nget_win32\nget_OpenVMS\nfrom_subprocess\nuname_result_base\nattrname\nnamedtuple_uname_result_base\nmodule_finder\nispkg\nsource\n_reopen\n_fix_name\n_get_delegate\nsingledispatch.<locals>\n_dirty_len\nWeakKeyDictionary.__init__.<locals>\nnamedtuple_ModuleInfo\npickle.PickleBuffer\n_FRAME_SIZE_MIN\n_FRAME_SIZE_TARGET\nstart_framing\nend_framing\ncommit_frame\nwrite_large_bytes\nload_frame\nclear_memo\nmemoize\nsave\npersistent_id\nsave_pers\nsave_reduce\nsave_none\nsave_bool\nsave_long\nsave_float\nsave_bytes\nsave_bytearray\nsave_picklebuffer\nsave_str\nsave_tuple\nsave_list\n_BATCHSIZE\n_batch_appends\nsave_dict\n_batch_setitems\nsave_set\nsave_frozenset\nsave_global\nsave_type\npop_mark\npersistent_load\nload_proto\nload_persid\nload_binpersid\nload_none\nload_false\nload_true\nload_int\nload_binint\nload_binint1\nload_binint2\nload_long\nload_long1\nload_long4\nload_float\nload_binfloat\n_decode_string\nload_string\nload_binstring\nload_binbytes\nload_unicode\nload_binunicode\nload_binunicode8\nload_binbytes8\nload_bytearray8\nload_next_buffer\nload_readonly_buffer\nload_short_binstring\nload_short_binbytes\nload_short_binunicode\nload_tuple\nload_empty_tuple\nload_tuple1\nload_tuple2\nload_tuple3\nload_empty_list\nload_empty_dictionary\nload_empty_set\nload_frozenset\nload_list\nload_dict\n_instantiate\nload_inst\nload_obj\nload_newobj\nload_newobj_ex\nload_global\nload_stack_global\nload_ext1\nload_ext2\nload_ext4\nget_extension\nfind_class\nload_reduce\nload_pop\nload_pop_mark\nload_dup\nload_get\nload_binget\nload_long_binget\nload_put\nload_binput\nload_long_binput\nload_memoize\nload_append\nload_appends\nload_setitem\nload_setitems\nload_additems\nload_build\nload_mark\nload_stop\n_pickle.Pickler\nfast\nmemo\n_pickle.Unpickler\nparse_parts\njoin_parsed_parts\nhas_drv\npathmod\nis_supported\ndrive_letters\next_namespace_prefix\nreserved_names\nsplitroot\ncasefold_parts\ncompile_pattern\n_split_extended_path\nis_reserved\nmake_uri\nselect_from\n_select_from\n_iterate_directories\n_drv\n_parts\n_pathcls\n_root\n_parse_args\n_from_parts\n_from_parsed_parts\n_format_parsed_parts\n_make_child\nas_posix\nas_uri\n_cparts\ndrive\nanchor\nwith_name\nwith_stem\nwith_suffix\nrelative_to\nis_relative_to\nparts\nis_absolute\n_cached_cparts\n_pparts\n_str\n_flavour\n_make_child_relpath\ncwd\n_scandir\nrglob\nabsolute\nowner\nwrite_bytes\nwrite_text\ntouch\nlchmod\nsymlink_to\nhardlink_to\nlink_to\nis_mount\nis_block_device\nis_char_device\nis_fifo\nis_socket\n'PosixPath' object has no attribute '_cached_cparts'\n'PosixPath' object has no attribute '_hash'\n'PosixPath' object has no attribute '_pparts'\n'PosixPath' object has no attribute '_str'\noperator.None\n_fscodec.<locals>\n_check_bytes\nNO_DEFAULT_VALUE\nset_parser\nset_short_opt_delimiter\nset_long_opt_delimiter\nformat_usage\nformat_heading\n_format_text\nformat_description\nformat_epilog\nexpand_default\nformat_option\nstore_option_strings\nformat_option_strings\nATTRS\nACTIONS\nSTORE_ACTIONS\nTYPED_ACTIONS\nALWAYS_TYPED_ACTIONS\nCONST_ACTIONS\nTYPES\nTYPE_CHECKER\nCHECK_METHODS\n_check_opt_strings\n_set_opt_strings\n_set_attrs\n_check_action\n_check_type\n_check_choice\n_check_dest\n_check_const\n_check_nargs\n_check_callback\ntakes_value\nget_opt_string\ncheck_value\nconvert_value\ntake_action\n_update_careful\n_update_loose\n_update\nread_module\nread_file\nensure_value\n_create_option_mappings\n_share_option_mappings\nset_conflict_handler\nset_description\nget_description\ndestroy\n_check_conflict\nadd_option\nadd_options\nget_option\nhas_option\nremove_option\nformat_option_help\nformat_help\n_create_option_list\nset_title\nstandard_option_list\n_add_help_option\n_add_version_option\n_populate_option_list\n_init_parsing_state\nset_usage\nenable_interspersed_args\ndisable_interspersed_args\nset_process_default_values\nset_default\nset_defaults\n_get_all_options\nget_default_values\nadd_option_group\nget_option_group\n_get_args\nparse_args\ncheck_values\n_process_args\n_match_long_opt\n_process_long_opt\n_process_short_opts\nget_prog_name\nexpand_prog_name\nget_usage\nprint_usage\nget_version\nprint_version\nprint_help\noperator.methodcaller\nstill_active\nWeakValueDictionary.__init__.<locals>\n_extra_reducers\n_copyreg_dispatch_table\nf\n_reset\njoin_thread\ncancel_join_thread\n_start_thread\n_finalize_join\n_finalize_close\n_feed\n_on_queue_feeder_error\n_Popen\n_check_closed\nauthkey\nexitcode\npid\nsentinel\n_identity\n_parent_pid\n_popen\n_config\n_MainProcess\nprocess not started\n_check_available\n_start_method\n_actual_context\n_handle\n_check_readable\n_check_writable\n_bad_message_length\nsend_bytes\nrecv_bytes\nrecv_bytes_into\n_close\n_write\n_read\n_send\n_recv\n_send_bytes\n_recv_bytes\n_poll\naddress\nlast_accepted\nreadfp\nread_windows_registry\n_read_windows_registry\n_lzma.LZMACompressor\n_lzma.LZMADecompressor\ncheck\neof\nneeds_input\nunused_data\n_check_not_closed\n_check_can_read\n_check_can_write\n_check_can_seek\nnamer\nrotator\nrotation_filename\ndoRollover\nshouldRollover\ncomputeRollover\ngetFilesToDelete\n_statstream\nreopenIfNeeded\nmakeSocket\ncreateSocket\nmakePickle\nhandleError\nLOG_EMERG\nLOG_ALERT\nLOG_CRIT\nLOG_ERR\nLOG_WARNING\nLOG_NOTICE\nLOG_INFO\nLOG_DEBUG\nLOG_KERN\nLOG_USER\nLOG_MAIL\nLOG_DAEMON\nLOG_AUTH\nLOG_SYSLOG\nLOG_LPR\nLOG_NEWS\nLOG_UUCP\nLOG_CRON\nLOG_AUTHPRIV\nLOG_FTP\nLOG_NTP\nLOG_SECURITY\nLOG_CONSOLE\nLOG_SOLCRON\nLOG_LOCAL0\nLOG_LOCAL1\nLOG_LOCAL2\nLOG_LOCAL3\nLOG_LOCAL4\nLOG_LOCAL5\nLOG_LOCAL6\nLOG_LOCAL7\npriority_names\nfacility_names\npriority_map\n_connect_unixsocket\nencodePriority\nmapPriority\nappend_nul\ngetSubject\ngetMessageID\ngetEventCategory\ngetEventType\nmapLogRecord\ngetConnection\nshouldFlush\nsetTarget\nenqueue\nprepare\ndequeue\n_monitor\nenqueue_sentinel\nstop\nget_name\nset_name\ncreateLock\nsetFormatter\n_open\nterminator\nsetStream\nconvert_with_key\nconvert\nCONVERT_PATTERN\nWORD_PATTERN\nDOT_PATTERN\nINDEX_PATTERN\nDIGIT_PATTERN\nvalue_converters\nimporter\next_convert\ncfg_convert\nconfigure_custom\nconfigure\nconfigure_formatter\nconfigure_filter\nadd_filters\nconfigure_handler\nadd_handlers\ncommon_logger_config\nconfigure_logger\nconfigure_root\ndefault_format\nasctime_format\nasctime_search\nvalidation_pattern\nusesTime\nfmt_spec\nfield_spec\nconverter\ndefault_time_format\ndefault_msec_format\nformatTime\nformatException\nformatMessage\nformatStack\n_style\n_fmt\ndatefmt\nformatHeader\nformatFooter\nstream\nformatter\n_defaults\n_json.Scanner\nstrict\nobject_hook\nobject_pairs_hook\nparse_float\nparse_int\nparse_constant\n_json.Encoder\nEncoder\nmarkers\nitem_separator\nsort_keys\nskipkeys\nraw_decode\nensure_ascii\ncheck_circular\nallow_nan\nparse_object\nparse_string\nscan_once\n_json.None\ncategory_order\nprogram\nliteral\nplaceholder\nhint\nordered_categories\nheading\nCOMMON\nEDITING\nREWRITING\nWORKING_COPY\nFILE_OPERATIONS\nREVIEW\nREFERENCES\nOPERATION_LOG\nWORKSPACE\nADVANCED\nCONFIGURATION_HELP\nGIT_INTEGRATION\nDEVELOPMENT\n_format_message\nenabled\nfrom_names\nnone\nsatisfies\nnames\ndebug_assert\nhidden_aliases\nhidden\nhelp_category\nall_names\nproblems\ncolor_choice\ndescriptors\nmatchable_names\nsubparser\nlisting\n_get_kwargs\nadd_subparsers\n_add_action\n_get_optional_actions\n_get_positional_actions\nparse_known_args\n_parse_known_args\n_read_args_from_files\nconvert_arg_line_to_args\n_match_argument\n_match_arguments_partial\n_parse_optional\n_get_option_tuples\n_get_nargs_pattern\nparse_intermixed_args\nparse_known_intermixed_args\n_get_values\n_check_value\n_get_formatter\n_print_message\n_registry_get\nget_default\nadd_argument\nadd_argument_group\nadd_mutually_exclusive_group\n_remove_action\n_add_container_actions\n_get_positional_kwargs\n_get_optional_kwargs\n_pop_action_class\n_get_handler\n_handle_conflict_error\n_handle_conflict_resolve\nadd_arguments\nfrom_namespace\nGIT\nBENCH\nitertools.combinations\nitertools.combinations_with_replacement\nitertools.cycle\nitertools.dropwhile\nitertools.takewhile\nitertools.starmap\nitertools.compress\nitertools.pairwise\nitertools.permutations\nitertools.product\nitertools._grouper\nitertools._tee\nitertools._tee_dataobject\nexploded\ncompressed\nreverse_pointer\n_check_int_address\n_check_packed_address\n_ip_int_from_prefix\n_prefix_from_ip_int\n_report_invalid_netmask\n_prefix_from_prefix_string\n_prefix_from_ip_string\n_split_addr_prefix\n_get_address_key\nhosts\noverlaps\nbroadcast_address\nhostmask\nwith_prefixlen\nwith_netmask\nwith_hostmask\nnum_addresses\n_address_class\nprefixlen\naddress_exclude\ncompare_networks\n_get_networks_key\nsubnets\nsupernet\nis_multicast\n_is_subnet_of\nsubnet_of\nsupernet_of\nis_link_local\nis_private\nis_global\nis_unspecified\nis_loopback\n_private_networks\n_version\n_ALL_ONES\n_max_prefixlen\n_netmask_cache\n_explode_shorthand_ip_string\n_make_netmask\n_ip_int_from_string\n_parse_octet\n_string_from_ip_int\n_reverse_pointer\nmax_prefixlen\npacked\n_ip\nip\n_linklocal_network\n_loopback_network\n_multicast_network\n_public_network\n_private_networks_exceptions\n_reserved_network\n_unspecified_address\n_HEXTET_COUNT\n_HEX_DIGITS\n_parse_hextet\n_compress_hextets\n_split_scope_id\nscope_id\nis_site_local\nipv4_mapped\nteredo\nsixtofour\n_scope_id\n_reserved_networks\n_sitelocal_network\nnetwork_address\nnetmask\n_prefixlen\n_io.BytesIO\ngetbuffer\n_io.BufferedWriter\n_io.BufferedRWPair\n_io.BufferedRandom\n_io.IncrementalNewlineDecoder\nkind\ndefining_class\nvisit_FunctionDef\nvisit_AsyncFunctionDef\nvisit_ClassDef\ntokeneater\nvarargs\nvarkw\ndefaults\nkwonlyargs\nkwonlydefaults\nnonlocals\nunbound\ncode_context\nPOSITIONAL_ONLY\nPOSITIONAL_OR_KEYWORD\nVAR_POSITIONAL\nKEYWORD_ONLY\nVAR_KEYWORD\ndescription\nannotation\n_annotation\n_default\n_kind\napply_defaults\n_signature\n_parameter_cls\n_bound_arguments_cls\nfrom_callable\nreturn_annotation\n_hash_basis\n_bind\nbind_partial\n_parameters\n_return_annotation\nnamedtuple__FrameInfo\nnamedtuple__Traceback\nnamedtuple_ClosureVars\nnamedtuple_ArgInfo\nnamedtuple_FullArgSpec\nnamedtuple_Arguments\nvisit\ngeneric_visit\nvisit_Constant\nnamedtuple_Attribute\n_LazyLoader__check_eager_loader\nfactory\n__check_eager_loader\nopen_resource\nresource_path\nSpecPath\nChildPath\nOrphanPath\n_reader\n_native\nCompatibilityFiles.SpecPath\nCompatibilityFiles.ChildPath\nCompatibilityFiles.OrphanPath\nin_\nmethod_cache.<locals>\nwrapper\nget_all\nnamedtuple_Pair\nmultiple_use_keys\n_repair_headers\nas_string\nas_bytes\nis_multipart\nset_unixfrom\nget_unixfrom\nattach\nget_payload\nset_payload\nset_charset\nget_charset\nset_raw\nraw_items\nadd_header\nreplace_header\nget_content_type\nget_content_maintype\nget_content_subtype\nget_default_type\nset_default_type\n_get_params_preserve\nget_params\nget_param\nset_param\ndel_param\nset_type\nget_boundary\nset_boundary\nget_content_charset\nget_charsets\nget_content_disposition\n_sample\nsection_pairs\nvalid\nattr\nextras\n_for\nmatches\n_wrap_deprecated_method\n_from_text_for\n_from_text\n_all\nlocate\nlocate_file\nfrom_name\ndiscover\nat\n_discover_resolvers\n_normalized_name\n_read_files_distinfo\n_read_files_egginfo\n_read_dist_info_reqs\n_read_egg_info_reqs\n_deps_from_requires_text\n_convert_egg_info_reqs_to_simple_reqs\nfind_distributions\nzip_children\nmtime\nlegacy_normalized\nlegacy_normalize\n_search_paths\n_name_from_stem\nfunctools.None\nDistributionFinder.Context\nDeprecatedList._wrap_deprecated_method.<locals>\nwrapped\nREGISTRY_KEY\nREGISTRY_KEY_DEBUG\nDEBUG_BUILD\n_open_registry\n_search_registry\n_path_hooks\n_path_importer_cache\n_legacy_get_spec\n_fill_cache\npath_hook\nCONTINUE\nSWITCHING_PROTOCOLS\nPROCESSING\nEARLY_HINTS\nOK\nCREATED\nACCEPTED\nNON_AUTHORITATIVE_INFORMATION\nNO_CONTENT\nRESET_CONTENT\nPARTIAL_CONTENT\nMULTI_STATUS\nALREADY_REPORTED\nIM_USED\nMULTIPLE_CHOICES\nMOVED_PERMANENTLY\nFOUND\nSEE_OTHER\nNOT_MODIFIED\nUSE_PROXY\nTEMPORARY_REDIRECT\nPERMANENT_REDIRECT\nBAD_REQUEST\nUNAUTHORIZED\nPAYMENT_REQUIRED\nFORBIDDEN\nNOT_FOUND\nMETHOD_NOT_ALLOWED\nNOT_ACCEPTABLE\nPROXY_AUTHENTICATION_REQUIRED\nREQUEST_TIMEOUT\nCONFLICT\nGONE\nLENGTH_REQUIRED\nPRECONDITION_FAILED\nREQUEST_ENTITY_TOO_LARGE\nREQUEST_URI_TOO_LONG\nUNSUPPORTED_MEDIA_TYPE\nREQUESTED_RANGE_NOT_SATISFIABLE\nEXPECTATION_FAILED\nIM_A_TEAPOT\nMISDIRECTED_REQUEST\nUNPROCESSABLE_ENTITY\nLOCKED\nFAILED_DEPENDENCY\nTOO_EARLY\nUPGRADE_REQUIRED\nPRECONDITION_REQUIRED\nTOO_MANY_REQUESTS\nREQUEST_HEADER_FIELDS_TOO_LARGE\nUNAVAILABLE_FOR_LEGAL_REASONS\nINTERNAL_SERVER_ERROR\nNOT_IMPLEMENTED\nBAD_GATEWAY\nSERVICE_UNAVAILABLE\nGATEWAY_TIMEOUT\nHTTP_VERSION_NOT_SUPPORTED\nVARIANT_ALSO_NEGOTIATES\nINSUFFICIENT_STORAGE\nLOOP_DETECTED\nNOT_EXTENDED\nNETWORK_AUTHENTICATION_REQUIRED\nCONNECT\nDELETE\nHEAD\nOPTIONS\nPATCH\nPOST\nTRACE\nphrase\nCDATA_CONTENT_ELEMENTS\n_HTMLParser__starttag_text\nget_starttag_text\nset_cdata_mode\nclear_cdata_mode\ngoahead\nparse_html_declaration\nparse_bogus_comment\nparse_pi\nparse_starttag\ncheck_for_whole_start_tag\nparse_endtag\nhandle_startendtag\nhandle_starttag\nhandle_endtag\nhandle_charref\nhandle_entityref\nhandle_data\nhandle_comment\nhandle_decl\nhandle_pi\nunknown_decl\ngetpos\nupdatepos\n_decl_otherchars\nparse_declaration\nparse_marked_section\nparse_comment\n_parse_doctype_subset\n_parse_doctype_element\n_parse_doctype_attlist\n_parse_doctype_notation\n_parse_doctype_entity\n_scan_name\nblocksize\n_init_hmac\n_init_old\n_current\nhexdigest\n_hmac\n_inner\n_outer\nblock_size\n__hash_new\n_blake2.blake2b\nSALT_SIZE\nPERSON_SIZE\nMAX_KEY_SIZE\nMAX_DIGEST_SIZE\n_blake2.blake2s\nprepend\nmyfileobj\n_init_write\n_write_gzip_header\nrewind\n_init_read\n_add_read_data\n_read_eof\n_rewind\nnpredecessors\nsuccessors\n_get_nodeinfo\nget_ready\nis_active\ndone\n_find_cycle\nstatic_order\nadd_fallback\nLE_MAGIC\nBE_MAGIC\nCONTEXT\nVERSIONS\n_get_versions\nopt\n_make_unbound_method\nCacheInfo\nhits\nmisses\ncurrsize\nhashvalue\nnamedtuple_CacheInfo\n_readline\nphase0\nphase1\nphase2\nphase3\nphase4\nphase4_closure\nreport\nreport_partial_closure\nreport_full_closure\nmethodmap\npickle_by_global_name\npickle_by_enum_name\n_buffer_decode\ncharbuffertype\nget_body_encoding\nget_output_charset\nheader_encode_lines\n_get_encoder\n_iter_escaped_chars\n_strip_quoted_realnames\n_pre_parse_validation\n_post_parse_validation\ngotonext\ngetaddrlist\ngetaddress\ngetrouteaddr\ngetaddrspec\ngetdomain\ngetdelimited\ngetquote\ngetcomment\ngetdomainliteral\ngetatom\ngetphraselist\nraise_on_defect\ncte_type\nmax_line_length\nmangle_from_\nmessage_factory\nverify_generated_headers\nhandle_defect\nregister_defect\nheader_max_count\nheader_source_parse\nheader_store_parse\nheader_fetch_parse\nfold_binary\n_sanitize_header\n_fold\nis_attachment\n_find_body\nget_body\n_body_types\niter_attachments\niter_parts\nget_content\nset_content\n_make_multipart\nmake_related\nmake_alternative\nmake_mixed\n_add_multipart\nadd_related\nadd_alternative\nadd_attachment\nclear_content\nclone\ninput_charset\nheader_encoding\nbody_encoding\noutput_charset\ninput_codec\noutput_codec\n_nonctext\n_normalize\nnewline\nadd_transition\n_maxlengths\n_ascii_split\n_append_chunk\npop_from\nis_onlyws\npart_count\ncol_offset\nend_col_offset\nargval\nargrepr\nstarts_line\nis_jump_target\npositions\ndepth\nlasti\n_disassemble\nfrom_traceback\nnamedtuple__ExceptionTableEntry\nnamedtuple__Instruction\nnamedtuple_Positions\na\nb\nset_seqs\nset_seq1\nset_seq2\n_SequenceMatcher__chain_b\nfind_longest_match\nget_matching_blocks\nget_opcodes\nget_grouped_opcodes\nquick_ratio\nreal_quick_ratio\n_plain_replace\n_fancy_replace\n_fancy_helper\n_qformat\n_default_prefix\nmake_file\n_tab_newline_replace\n_split_line\n_line_wrapper\n_collect_lines\n_format_line\n_make_prefix\n_convert_flags\nmake_table\n__chain_b\nnamedtuple_Match\ndecimal.Context\nminus\nplus\ndivide_int\nmultiply\npower\nEtiny\nEtop\n_apply\ncopy_decimal\nto_sci_string\nclear_flags\nclear_traps\ncreate_decimal\ncreate_decimal_from_float\nprec\nEmax\nEmin\nrounding\ncapitals\nsign\nexponent\nnamedtuple_DecimalTuple\n_field_type\nkw_only\n_ctypes.Union\n_ctypes.Structure\n_ctypes.Array\n_type_\n__ctype_be__\n__ctype_le__\nfrom_param\n_func_flags_\n_func_restype_\n_FuncPtr\nLoadLibrary\n\n: cannot open shared object file: No such file or directory\n_dlltype\npython3: undefined symbol: \nctypes.None\nrestype\n_ctypes.PyCArrayType\nPyCArrayType\nfrom_address\nfrom_buffer\nfrom_buffer_copy\nin_dll\n_swappedbytes_\n_ctypes._CData\n_CData\n__ctypes_from_outparam__\n_b_base_\n_b_needsfree_\n_objects\n_ctypes.UnionType\n_ctypes.PyCStructType\nPyCStructType\nCFunctionType\nCFUNCTYPE.<locals>.CFunctionType\nCFUNCTYPE.<locals>\n_argtypes_\n_restype_\n_flags_\n_ctypes.PyCFuncPtrType\nPyCFuncPtrType\n_ctypes.CFuncPtr\nerrcheck\nargtypes\nCDLL.__init__.<locals>._FuncPtr\nCDLL.__init__.<locals>\n_ctypes.PyCSimpleType\nPyCSimpleType\n_ctypes._SimpleCData\nc_double_be\nc_float_be\nc_uint_be\nc_int_be\nc_ulong_be\nc_long_be\nc_ushort_be\nc_short_be\n_ctypes._Pointer\nPYFUNCTYPE.<locals>.CFunctionType\nPYFUNCTYPE.<locals>\n_ctypes.PyCPointerType\nPyCPointerType\n_csv.Error\n_csv.Dialect\nskipinitialspace\ndoublequote\nescapechar\nlineterminator\nquotechar\nquoting\n_valid\n_validate\nfieldnames\nwriteheader\n_dict_to_list\nwriterow\nwriterows\nsniff\n_guess_quote_and_delimiter\n_guess_delimiter\nhas_header\n_contextvars.Context\n_contextvars.ContextVar\n_contextvars.Token\nvar\nold_value\nToken.MISSING\n_recreate_cm\n_stream\n_create_exit_wrapper\n_create_cb_wrapper\nenter_context\ncallback\n_push_cm_exit\n_push_exit_callback\n_create_async_exit_wrapper\n_create_async_cb_wrapper\nenter_async_context\npush_async_exit\npush_async_callback\n_push_async_cm_exit\nbefore_get\nbefore_set\nbefore_read\nbefore_write\n_KEYCRE\n_interpolate_some\n_interpolation_replace\n_SECT_TMPL\n_OPT_TMPL\n_OPT_NV_TMPL\n_DEFAULT_INTERPOLATION\nSECTCRE\nOPTCRE\nOPTCRE_NV\nNONSPACECRE\nBOOLEAN_STATES\nsections\nhas_section\nread_string\nread_dict\n_get_conv\ngetint\ngetfloat\ngetboolean\noptionxform\n_write_section\nremove_section\n_join_multiline_values\n_read_defaults\n_handle_error\n_unify_values\n_convert_to_boolean\n_validate_value_types\nconverters\n_options\nGETTERCRE\nsubmit\n_adjust_thread_count\n_initializer_failed\nwakeup\nadd_call_item_to_queue\nwait_result_broken_or_wakeup\nprocess_result_item\nis_shutting_down\nterminate_broken\nflag_executor_shutting_down\nshutdown_workers\njoin_executor_internals\nget_n_children_alive\n_start_executor_manager_thread\n_adjust_process_count\n_launch_processes\n_spawn_process\nadd_result\nadd_exception\nadd_cancelled\n_decrement_pending_calls\nnot_done\n_invoke_callbacks\ncancelled\nrunning\n_Future__get_result\nadd_done_callback\nresult\nset_running_or_notify_cancel\nset_result\nset_exception\n__get_result\nnamedtuple_DoneAndNotDoneFutures\nprev\n_is_text_encoding\n_buffer_encode\ndata_encoding\nfile_encoding\nrunsource\nruncode\nshowsyntaxerror\nshowtraceback\nresetbuffer\nraw_input\nprompt\nidentchars\nruler\nlastcmd\nintro\ndoc_leader\ndoc_header\nmisc_header\nundoc_header\nnohelp\nuse_rawinput\ncmdloop\nprecmd\npostcmd\npreloop\npostloop\nparseline\nonecmd\nemptyline\ncompletedefault\ncompletenames\ncomplete\nget_names\ncomplete_help\ndo_help\nprint_topics\ncolumnize\n_months\n_days\ngetfirstweekday\niterweekdays\nitermonthdates\nitermonthdays\nitermonthdays2\nitermonthdays3\nitermonthdays4\nmonthdatescalendar\nmonthdays2calendar\nmonthdayscalendar\nyeardatescalendar\nyeardays2calendar\nyeardayscalendar\nformatday\nformatweek\nformatweekday\nformatweekheader\nformatmonthname\nformatmonth\nformatyear\npryear\ncssclasses\ncssclasses_weekday_head\ncssclass_noday\ncssclass_month_head\ncssclass_month\ncssclass_year_head\ncssclass_year\nformatyearpage\n_firstweekday\n_bz2.BZ2Compressor\n_bz2.BZ2Decompressor\ntoreadonly\nnbytes\nreadonly\nndim\nshape\nstrides\nsuboffsets\nc_contiguous\nf_contiguous\ncontiguous\n__alloc__\nstep\nindices\n__thisclass__\n__self_class__\nderive\nsubgroup\nreason\n_sitebuiltins.None\n_Printer__name\n_Printer__data\n_Printer__lines\n_Printer__filenames\nMAXLINES\n_Printer__setup\n__setup\ncanonic\ntrace_dispatch\ndispatch_line\ndispatch_call\ndispatch_return\ndispatch_exception\nis_skipped_module\nstop_here\nbreak_here\ndo_clear\nbreak_anywhere\nuser_call\nuser_line\nuser_return\nuser_exception\n_set_stopinfo\nset_until\nset_step\nset_next\nset_return\nset_continue\nset_quit\n_add_to_breaks\nset_break\n_load_breaks\n_prune_breaks\nclear_break\nclear_bpbynumber\nclear_all_file_breaks\nclear_all_breaks\nget_bpbynumber\nget_break\nget_breaks\nget_file_breaks\nget_all_breaks\nget_stack\nformat_stack_entry\nruneval\nrunctx\nruncall\nbplist\nbpbynumber\nclearBreakpoints\ndeleteMe\nbpprint\nbpformat\nast.AST\nreturns\ntype_comment\nexc\ncause\nformat_spec\nn\ns\ndims\nvararg\nkwarg\nasname\noptional_vars\nguard\nrest\nNAMED_EXPR\nYIELD\nTEST\nOR\nAND\nNOT\nCMP\nEXPR\nBOR\nBXOR\nBAND\nSHIFT\nARITH\nTERM\nFACTOR\nPOWER\nATOM\ninterleave\nitems_view\nmaybe_newline\nbuffered\nblock\ndelimit\ndelimit_if\nrequire_parens\nget_precedence\nset_precedence\nget_raw_docstring\nget_type_comment\n_write_docstring_and_traverse_body\nvisit_Module\nvisit_FunctionType\nvisit_Expr\nvisit_NamedExpr\nvisit_Import\nvisit_ImportFrom\nvisit_Assign\nvisit_AugAssign\nvisit_AnnAssign\nvisit_Return\nvisit_Pass\nvisit_Break\nvisit_Continue\nvisit_Delete\nvisit_Assert\nvisit_Global\nvisit_Nonlocal\nvisit_Await\nvisit_Yield\nvisit_YieldFrom\nvisit_Raise\ndo_visit_try\nvisit_Try\nvisit_TryStar\nvisit_ExceptHandler\n_function_helper\nvisit_For\nvisit_AsyncFor\n_for_helper\nvisit_If\nvisit_While\nvisit_With\nvisit_AsyncWith\n_str_literal_helper\n_write_str_avoiding_backslashes\nvisit_JoinedStr\n_write_fstring_inner\nvisit_FormattedValue\nvisit_Name\n_write_docstring\n_write_constant\nvisit_List\nvisit_ListComp\nvisit_GeneratorExp\nvisit_SetComp\nvisit_DictComp\nvisit_comprehension\nvisit_IfExp\nvisit_Set\nvisit_Dict\nvisit_Tuple\nunop\nunop_precedence\nvisit_UnaryOp\nbinop\nbinop_precedence\nbinop_rassoc\nvisit_BinOp\ncmpops\nvisit_Compare\nboolops\nboolop_precedence\nvisit_BoolOp\nvisit_Attribute\nvisit_Call\nvisit_Subscript\nvisit_Starred\nvisit_Ellipsis\nvisit_Slice\nvisit_Match\nvisit_arg\nvisit_arguments\nvisit_keyword\nvisit_Lambda\nvisit_alias\nvisit_withitem\nvisit_match_case\nvisit_MatchValue\nvisit_MatchSingleton\nvisit_MatchSequence\nvisit_MatchStar\nvisit_MatchMapping\nvisit_MatchClass\nvisit_MatchAs\nvisit_MatchOr\n_indent\n_Section\n_add_item\nstart_section\nadd_text\nadd_usage\n_join_parts\n_format_usage\n_format_actions_usage\n_format_action\n_format_action_invocation\n_metavar_formatter\n_format_args\n_expand_help\n_iter_indented_subactions\n_split_lines\n_fill_text\n_get_help_string\n_get_default_metavar_for_optional\n_get_default_metavar_for_positional\n_ChoicesPseudoAction\nadd_parser\n_get_subactions\n_SubParsersAction._ChoicesPseudoAction\nHelpFormatter._Section\n_sha512.sha512\n_multiprocessing.SemLock\n_is_mine\n_is_zero\n_rebuild\nmaxvalue\nSEM_VALUE_MAX\n_hashlib.HASH\n_hashlib.HASHXOF\n_hashlib.HMAC\n_make_relax_case.<locals>\n_epoch\n_find_parent_path_names\n_get_parent_path\n_recalculate\nhas_deadlock\n_csv.reader\ndialect\nline_num\n_csv.writer\nstr_ascii_iterator\nmapping\n_collections._deque_iterator\n_collections._deque_reverse_iterator\n_decimal\nos.path"

end CommandLine.Objects.Data
