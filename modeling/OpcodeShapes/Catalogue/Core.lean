import OpcodeShapes.Catalogue.Kind

/-!
# The core categories

Rows for the blocks every editor has, one list for each category, in palette
order.
-/

namespace OpcodeShapes.Catalogue

set_option autoImplicit false

def motion : List Row :=
  [⟨"MOTION_MOVESTEPS", "motion_movesteps", command⟩,
   ⟨"MOTION_TURNRIGHT", "motion_turnright", command⟩,
   ⟨"MOTION_TURNLEFT", "motion_turnleft", command⟩,
   ⟨"MOTION_GOTO", "motion_goto", command⟩,
   ⟨"MOTION_GOTOXY", "motion_gotoxy", command⟩,
   ⟨"MOTION_GLIDETO", "motion_glideto", command⟩,
   ⟨"MOTION_GLIDESECSTOXY", "motion_glidesecstoxy", command⟩,
   ⟨"MOTION_POINTINDIRECTION", "motion_pointindirection", command⟩,
   ⟨"MOTION_POINTTOWARDS", "motion_pointtowards", command⟩,
   ⟨"MOTION_CHANGEXBY", "motion_changexby", command⟩,
   ⟨"MOTION_SETX", "motion_setx", command⟩,
   ⟨"MOTION_CHANGEYBY", "motion_changeyby", command⟩,
   ⟨"MOTION_SETY", "motion_sety", command⟩,
   ⟨"MOTION_IFONEDGEBOUNCE", "motion_ifonedgebounce", command⟩,
   ⟨"MOTION_SETROTATIONSTYLE", "motion_setrotationstyle", command⟩,
   ⟨"MOTION_XPOSITION", "motion_xposition", reporter⟩,
   ⟨"MOTION_YPOSITION", "motion_yposition", reporter⟩,
   ⟨"MOTION_DIRECTION", "motion_direction", reporter⟩,
   ⟨"MOTION_SCROLL_RIGHT", "motion_scroll_right", command⟩,
   ⟨"MOTION_SCROLL_UP", "motion_scroll_up", command⟩,
   ⟨"MOTION_ALIGN_SCENE", "motion_align_scene", command⟩,
   ⟨"MOTION_XSCROLL", "motion_xscroll", reporter⟩,
   ⟨"MOTION_YSCROLL", "motion_yscroll", reporter⟩,
   ⟨"MOTION_GOTO_MENU", "motion_goto_menu", menu⟩,
   ⟨"MOTION_GLIDETO_MENU", "motion_glideto_menu", menu⟩,
   ⟨"MOTION_POINTTOWARDS_MENU", "motion_pointtowards_menu", menu⟩]

def looks : List Row :=
  [⟨"LOOKS_SAYFORSECS", "looks_sayforsecs", command⟩,
   ⟨"LOOKS_SAY", "looks_say", command⟩,
   ⟨"LOOKS_THINKFORSECS", "looks_thinkforsecs", command⟩,
   ⟨"LOOKS_THINK", "looks_think", command⟩,
   ⟨"LOOKS_SWITCHCOSTUMETO", "looks_switchcostumeto", command⟩,
   ⟨"LOOKS_NEXTCOSTUME", "looks_nextcostume", command⟩,
   ⟨"LOOKS_SWITCHBACKDROPTO", "looks_switchbackdropto", command⟩,
   ⟨"LOOKS_SWITCHBACKDROPTOANDWAIT", "looks_switchbackdroptoandwait", command⟩,
   ⟨"LOOKS_NEXTBACKDROP", "looks_nextbackdrop", command⟩,
   ⟨"LOOKS_CHANGESIZEBY", "looks_changesizeby", command⟩,
   ⟨"LOOKS_SETSIZETO", "looks_setsizeto", command⟩,
   ⟨"LOOKS_CHANGEEFFECTBY", "looks_changeeffectby", command⟩,
   ⟨"LOOKS_SETEFFECTTO", "looks_seteffectto", command⟩,
   ⟨"LOOKS_CLEARGRAPHICEFFECTS", "looks_cleargraphiceffects", command⟩,
   ⟨"LOOKS_SHOW", "looks_show", command⟩,
   ⟨"LOOKS_HIDE", "looks_hide", command⟩,
   ⟨"LOOKS_GOTOFRONTBACK", "looks_gotofrontback", command⟩,
   ⟨"LOOKS_GOFORWARDBACKWARDLAYERS", "looks_goforwardbackwardlayers", command⟩,
   ⟨"LOOKS_COSTUMENUMBERNAME", "looks_costumenumbername", reporter⟩,
   ⟨"LOOKS_BACKDROPNUMBERNAME", "looks_backdropnumbername", reporter⟩,
   ⟨"LOOKS_SIZE", "looks_size", reporter⟩,
   ⟨"LOOKS_HIDEALLSPRITES", "looks_hideallsprites", command⟩,
   ⟨"LOOKS_SETSTRETCHTO", "looks_setstretchto", command⟩,
   ⟨"LOOKS_CHANGESTRETCHBY", "looks_changestretchby", command⟩,
   ⟨"LOOKS_COSTUME", "looks_costume", menu⟩,
   ⟨"LOOKS_BACKDROPS", "looks_backdrops", menu⟩]

def sound : List Row :=
  [⟨"SOUND_PLAYUNTILDONE", "sound_playuntildone", command⟩,
   ⟨"SOUND_PLAY", "sound_play", command⟩,
   ⟨"SOUND_STOPALLSOUNDS", "sound_stopallsounds", command⟩,
   ⟨"SOUND_CHANGEEFFECTBY", "sound_changeeffectby", command⟩,
   ⟨"SOUND_SETEFFECTTO", "sound_seteffectto", command⟩,
   ⟨"SOUND_CLEAREFFECTS", "sound_cleareffects", command⟩,
   ⟨"SOUND_CHANGEVOLUMEBY", "sound_changevolumeby", command⟩,
   ⟨"SOUND_SETVOLUMETO", "sound_setvolumeto", command⟩,
   ⟨"SOUND_VOLUME", "sound_volume", reporter⟩,
   ⟨"SOUND_SOUNDS_MENU", "sound_sounds_menu", menu⟩]

def events : List Row :=
  [⟨"EVENT_WHENFLAGCLICKED", "event_whenflagclicked", hat⟩,
   ⟨"EVENT_WHENKEYPRESSED", "event_whenkeypressed", hat⟩,
   ⟨"EVENT_WHENTHISSPRITECLICKED", "event_whenthisspriteclicked", hat⟩,
   ⟨"EVENT_WHENSTAGECLICKED", "event_whenstageclicked", hat⟩,
   ⟨"EVENT_WHENBACKDROPSWITCHESTO", "event_whenbackdropswitchesto", hat⟩,
   ⟨"EVENT_WHENGREATERTHAN", "event_whengreaterthan", hat⟩,
   ⟨"EVENT_WHENBROADCASTRECEIVED", "event_whenbroadcastreceived", hat⟩,
   ⟨"EVENT_BROADCAST", "event_broadcast", command⟩,
   ⟨"EVENT_BROADCASTANDWAIT", "event_broadcastandwait", command⟩,
   ⟨"EVENT_WHENTOUCHINGOBJECT", "event_whentouchingobject", hat⟩,
   ⟨"EVENT_BROADCAST_MENU", "event_broadcast_menu", menu⟩,
   ⟨"EVENT_TOUCHINGOBJECTMENU", "event_touchingobjectmenu", menu⟩]

def control : List Row :=
  [⟨"CONTROL_WAIT", "control_wait", command⟩,
   ⟨"CONTROL_FOREVER", "control_forever", closedMouth⟩,
   ⟨"CONTROL_IF", "control_if", mouth⟩,
   ⟨"CONTROL_IF_ELSE", "control_if_else", mouth⟩,
   ⟨"CONTROL_WAIT_UNTIL", "control_wait_until", command⟩,
   ⟨"CONTROL_REPEAT_UNTIL", "control_repeat_until", mouth⟩,
   ⟨"CONTROL_STOP", "control_stop", doubtfulEnding⟩,
   ⟨"CONTROL_START_AS_CLONE", "control_start_as_clone", hat⟩,
   ⟨"CONTROL_CREATE_CLONE_OF", "control_create_clone_of", command⟩,
   ⟨"CONTROL_DELETE_THIS_CLONE", "control_delete_this_clone", ending⟩,
   ⟨"CONTROL_FOR_EACH", "control_for_each", mouth⟩,
   ⟨"CONTROL_WHILE", "control_while", mouth⟩,
   ⟨"CONTROL_GET_COUNTER", "control_get_counter", reporter⟩,
   ⟨"CONTROL_INCR_COUNTER", "control_incr_counter", command⟩,
   ⟨"CONTROL_CLEAR_COUNTER", "control_clear_counter", command⟩,
   ⟨"CONTROL_ALL_AT_ONCE", "control_all_at_once", mouth⟩,
   ⟨"CONTROL_CREATE_CLONE_OF_MENU", "control_create_clone_of_menu", menu⟩]

def sensing : List Row :=
  [⟨"SENSING_TOUCHINGOBJECT", "sensing_touchingobject", predicate⟩,
   ⟨"SENSING_TOUCHINGCOLOR", "sensing_touchingcolor", predicate⟩,
   ⟨"SENSING_COLORISTOUCHINGCOLOR", "sensing_coloristouchingcolor", predicate⟩,
   ⟨"SENSING_DISTANCETO", "sensing_distanceto", reporter⟩,
   ⟨"SENSING_ASKANDWAIT", "sensing_askandwait", command⟩,
   ⟨"SENSING_ANSWER", "sensing_answer", reporter⟩,
   ⟨"SENSING_KEYPRESSED", "sensing_keypressed", predicate⟩,
   ⟨"SENSING_MOUSEDOWN", "sensing_mousedown", predicate⟩,
   ⟨"SENSING_MOUSEX", "sensing_mousex", reporter⟩,
   ⟨"SENSING_MOUSEY", "sensing_mousey", reporter⟩,
   ⟨"SENSING_SETDRAGMODE", "sensing_setdragmode", command⟩,
   ⟨"SENSING_LOUDNESS", "sensing_loudness", reporter⟩,
   ⟨"SENSING_TIMER", "sensing_timer", reporter⟩,
   ⟨"SENSING_RESETTIMER", "sensing_resettimer", command⟩,
   ⟨"SENSING_OF", "sensing_of", reporter⟩,
   ⟨"SENSING_CURRENT", "sensing_current", reporter⟩,
   ⟨"SENSING_DAYSSINCE2000", "sensing_dayssince2000", reporter⟩,
   ⟨"SENSING_USERNAME", "sensing_username", reporter⟩,
   ⟨"SENSING_LOUD", "sensing_loud", predicate⟩,
   ⟨"SENSING_USERID", "sensing_userid", reporter⟩,
   ⟨"SENSING_TOUCHINGOBJECTMENU", "sensing_touchingobjectmenu", menu⟩,
   ⟨"SENSING_DISTANCETOMENU", "sensing_distancetomenu", menu⟩,
   ⟨"SENSING_KEYOPTIONS", "sensing_keyoptions", menu⟩,
   ⟨"SENSING_OF_OBJECT_MENU", "sensing_of_object_menu", menu⟩]

def operators : List Row :=
  [⟨"OPERATOR_ADD", "operator_add", reporter⟩,
   ⟨"OPERATOR_SUBTRACT", "operator_subtract", reporter⟩,
   ⟨"OPERATOR_MULTIPLY", "operator_multiply", reporter⟩,
   ⟨"OPERATOR_DIVIDE", "operator_divide", reporter⟩,
   ⟨"OPERATOR_RANDOM", "operator_random", reporter⟩,
   ⟨"OPERATOR_GT", "operator_gt", predicate⟩,
   ⟨"OPERATOR_LT", "operator_lt", predicate⟩,
   ⟨"OPERATOR_EQUALS", "operator_equals", predicate⟩,
   ⟨"OPERATOR_AND", "operator_and", predicate⟩,
   ⟨"OPERATOR_OR", "operator_or", predicate⟩,
   ⟨"OPERATOR_NOT", "operator_not", predicate⟩,
   ⟨"OPERATOR_JOIN", "operator_join", reporter⟩,
   ⟨"OPERATOR_LETTER_OF", "operator_letter_of", reporter⟩,
   ⟨"OPERATOR_LENGTH", "operator_length", reporter⟩,
   ⟨"OPERATOR_CONTAINS", "operator_contains", predicate⟩,
   ⟨"OPERATOR_MOD", "operator_mod", reporter⟩,
   ⟨"OPERATOR_ROUND", "operator_round", reporter⟩,
   ⟨"OPERATOR_MATHOP", "operator_mathop", reporter⟩]

def data : List Row :=
  [⟨"DATA_VARIABLE", "data_variable", reporter⟩,
   ⟨"DATA_SETVARIABLETO", "data_setvariableto", command⟩,
   ⟨"DATA_CHANGEVARIABLEBY", "data_changevariableby", command⟩,
   ⟨"DATA_SHOWVARIABLE", "data_showvariable", command⟩,
   ⟨"DATA_HIDEVARIABLE", "data_hidevariable", command⟩,
   ⟨"DATA_LISTCONTENTS", "data_listcontents", reporter⟩,
   ⟨"DATA_ADDTOLIST", "data_addtolist", command⟩,
   ⟨"DATA_DELETEOFLIST", "data_deleteoflist", command⟩,
   ⟨"DATA_DELETEALLOFLIST", "data_deletealloflist", command⟩,
   ⟨"DATA_INSERTATLIST", "data_insertatlist", command⟩,
   ⟨"DATA_REPLACEITEMOFLIST", "data_replaceitemoflist", command⟩,
   ⟨"DATA_ITEMOFLIST", "data_itemoflist", predicate⟩,
   ⟨"DATA_ITEMNUMOFLIST", "data_itemnumoflist", reporter⟩,
   ⟨"DATA_LENGTHOFLIST", "data_lengthoflist", reporter⟩,
   ⟨"DATA_LISTCONTAINSITEM", "data_listcontainsitem", predicate⟩,
   ⟨"DATA_SHOWLIST", "data_showlist", command⟩,
   ⟨"DATA_HIDELIST", "data_hidelist", command⟩,
   ⟨"DATA_LISTINDEXALL", "data_listindexall", menu⟩,
   ⟨"DATA_LISTINDEXRANDOM", "data_listindexrandom", menu⟩]

def procedures : List Row :=
  [⟨"PROCEDURES_DEFINITION", "procedures_definition", hat⟩,
   ⟨"PROCEDURES_CALL", "procedures_call", command⟩,
   ⟨"PROCEDURES_DECLARATION", "procedures_declaration", command⟩,
   ⟨"PROCEDURES_PROTOTYPE", "procedures_prototype", command⟩]

def arguments : List Row :=
  [⟨"ARGUMENT_REPORTER_STRING_NUMBER", "argument_reporter_string_number", reporter⟩,
   ⟨"ARGUMENT_REPORTER_BOOLEAN", "argument_reporter_boolean", predicate⟩,
   ⟨"ARGUMENT_EDITOR_REPORTER", "argument_editor_reporter", predicate⟩,
   ⟨"ARGUMENT_EDITOR_STRING_NUMBER", "argument_editor_string_number", reporter⟩]

def core : List Row :=
  motion ++ looks ++ sound ++ events ++ control ++
    sensing ++ operators ++ data ++ procedures ++ arguments

end OpcodeShapes.Catalogue
