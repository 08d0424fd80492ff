import OpcodeShapes.Catalogue.Kind

/-!
# The bundled extensions

Rows for the blocks of the extensions that come with the editor, one list for
each. An extension block whose shape nobody has recorded is `plain`.
-/

namespace OpcodeShapes.Catalogue

set_option autoImplicit false

def music : List Row :=
  [⟨"MUSIC_PLAYDRUMFORBEATS", "music_playDrumForBeats", command⟩,
   ⟨"MUSIC_RESTFORBEATS", "music_restForBeats", command⟩,
   ⟨"MUSIC_PLAYNOTEFORBEATS", "music_playNoteForBeats", command⟩,
   ⟨"MUSIC_SETINSTRUMENT", "music_setInstrument", command⟩,
   ⟨"MUSIC_SETTEMPO", "music_setTempo", command⟩,
   ⟨"MUSIC_CHANGETEMPO", "music_changeTempo", command⟩,
   ⟨"MUSIC_GETTEMPO", "music_getTempo", reporter⟩,
   ⟨"MUSIC_MIDIPLAYDRUMFORBEATS", "music_midiPlayDrumForBeats", command⟩,
   ⟨"MUSIC_MIDISETINSTRUMENT", "music_midiSetInstrument", command⟩,
   ⟨"MUSIC_MENU_DRUM", "music_menu_DRUM", menu⟩,
   ⟨"MUSIC_MENU_INSTRUMENT", "music_menu_INSTRUMENT", menu⟩]

def pen : List Row :=
  [⟨"PEN_CLEAR", "pen_clear", command⟩,
   ⟨"PEN_STAMP", "pen_stamp", command⟩,
   ⟨"PEN_PENDOWN", "pen_penDown", command⟩,
   ⟨"PEN_PENUP", "pen_penUp", command⟩,
   ⟨"PEN_SETPENCOLORTOCOLOR", "pen_setPenColorToColor", command⟩,
   ⟨"PEN_CHANGEPENCOLORPARAMBY", "pen_changePenColorParamBy", command⟩,
   ⟨"PEN_SETPENCOLORPARAMTO", "pen_setPenColorParamTo", command⟩,
   ⟨"PEN_CHANGEPENSIZEBY", "pen_changePenSizeBy", command⟩,
   ⟨"PEN_SETPENSIZETO", "pen_setPenSizeTo", command⟩,
   ⟨"PEN_SETPENHUETONUMBER", "pen_setPenHueToNumber", command⟩,
   ⟨"PEN_CHANGEPENHUEBY", "pen_changePenHueBy", command⟩,
   ⟨"PEN_SETPENSHADETONUMBER", "pen_setPenShadeToNumber", command⟩,
   ⟨"PEN_CHANGEPENSHADEBY", "pen_changePenShadeBy", command⟩,
   ⟨"PEN_MENU_COLORPARAM", "pen_menu_colorParam", menu⟩]

def videoSensing : List Row :=
  [⟨"VIDEOSENSING_WHENMOTIONGREATERTHAN", "videoSensing_whenMotionGreaterThan", hat⟩,
   ⟨"VIDEOSENSING_VIDEOON", "videoSensing_videoOn", reporter⟩,
   ⟨"VIDEOSENSING_VIDEOTOGGLE", "videoSensing_videoToggle", command⟩,
   ⟨"VIDEOSENSING_SETVIDEOTRANSPARENCY", "videoSensing_setVideoTransparency", command⟩,
   ⟨"VIDEOSENSING_MENU_ATTRIBUTE", "videoSensing_menu_ATTRIBUTE", menu⟩,
   ⟨"VIDEOSENSING_MENU_SUBJECT", "videoSensing_menu_SUBJECT", menu⟩,
   ⟨"VIDEOSENSING_MENU_VIDEO_STATE", "videoSensing_menu_VIDEO_STATE", menu⟩]

def textToSpeech : List Row :=
  [⟨"TEXT2SPEECH_SPEAKANDWAIT", "text2speech_speakAndWait", command⟩,
   ⟨"TEXT2SPEECH_SETVOICE", "text2speech_setVoice", command⟩,
   ⟨"TEXT2SPEECH_SETLANGUAGE", "text2speech_setLanguage", command⟩,
   ⟨"TEXT2SPEECH_MENU_VOICES", "text2speech_menu_voices", menu⟩,
   ⟨"TEXT2SPEECH_MENU_LANGUAGES", "text2speech_menu_languages", menu⟩]

def translate : List Row :=
  [⟨"TRANSLATE_GETTRANSLATE", "translate_getTranslate", reporter⟩,
   ⟨"TRANSLATE_GETVIEWERLANGUAGE", "translate_getViewerLanguage", reporter⟩,
   ⟨"TRANSLATE_MENU_LANGUAGES", "translate_menu_languages", menu⟩]

def makeyMakey : List Row :=
  [⟨"MAKEYMAKEY_WHENMAKEYKEYPRESSED", "makeymakey_whenMakeyKeyPressed", hat⟩,
   ⟨"MAKEYMAKEY_WHENCODEPRESSED", "makeymakey_whenCodePressed", hat⟩,
   ⟨"MAKEYMAKEY_MENU_KEY", "makeymakey_menu_KEY", menu⟩,
   ⟨"MAKEYMAKEY_MENU_SEQUENCE", "makeymakey_menu_SEQUENCE", menu⟩]

def microbit : List Row :=
  [⟨"MICROBIT_WHENBUTTONPRESSED", "microbit_whenButtonPressed", plain⟩,
   ⟨"MICROBIT_ISBUTTONPRESSED", "microbit_isButtonPressed", plain⟩,
   ⟨"MICROBIT_WHENGESTURE", "microbit_whenGesture", plain⟩,
   ⟨"MICROBIT_DISPLAYSYMBOL", "microbit_displaySymbol", plain⟩,
   ⟨"MICROBIT_DISPLAYTEXT", "microbit_displayText", plain⟩,
   ⟨"MICROBIT_DISPLAYCLEAR", "microbit_displayClear", plain⟩,
   ⟨"MICROBIT_WHENTILTED", "microbit_whenTilted", plain⟩,
   ⟨"MICROBIT_ISTILTED", "microbit_isTilted", plain⟩,
   ⟨"MICROBIT_GETTILTANGLE", "microbit_getTiltAngle", plain⟩,
   ⟨"MICROBIT_WHENPINCONNECTED", "microbit_whenPinConnected", plain⟩,
   ⟨"MICROBIT_MENU_BUTTONS", "microbit_menu_buttons", plain⟩,
   ⟨"MICROBIT_MENU_GESTURES", "microbit_menu_gestures", plain⟩,
   ⟨"MICROBIT_MENU_TILTDIRECTIONANY", "microbit_menu_tiltDirectionAny", plain⟩,
   ⟨"MICROBIT_MENU_TILTDIRECTION", "microbit_menu_tiltDirection", plain⟩,
   ⟨"MICROBIT_MENU_TOUCHPINS", "microbit_menu_touchPins", plain⟩,
   ⟨"MICROBIT_MENU_PINSTATE", "microbit_menu_pinState", plain⟩]

def ev3 : List Row :=
  [⟨"EV3_MOTORTURNCLOCKWISE", "ev3_motorTurnClockwise", plain⟩,
   ⟨"EV3_MOTORTURNCOUNTERCLOCKWISE", "ev3_motorTurnCounterClockwise", plain⟩,
   ⟨"EV3_MOTORSETPOWER", "ev3_motorSetPower", plain⟩,
   ⟨"EV3_GETMOTORPOSITION", "ev3_getMotorPosition", plain⟩,
   ⟨"EV3_WHENBUTTONPRESSED", "ev3_whenButtonPressed", plain⟩,
   ⟨"EV3_WHENDISTANCELESSTHAN", "ev3_whenDistanceLessThan", plain⟩,
   ⟨"EV3_WHENBRIGHTNESSLESSTHAN", "ev3_whenBrightnessLessThan", plain⟩,
   ⟨"EV3_BUTTONPRESSED", "ev3_buttonPressed", plain⟩,
   ⟨"EV3_GETDISTANCE", "ev3_getDistance", plain⟩,
   ⟨"EV3_GETBRIGHTNESS", "ev3_getBrightness", plain⟩,
   ⟨"EV3_BEEP", "ev3_beep", plain⟩,
   ⟨"EV3_MENU_MOTORPORTS", "ev3_menu_motorPorts", plain⟩,
   ⟨"EV3_MENU_SENSORPORTS", "ev3_menu_sensorPorts", plain⟩]

def boost : List Row :=
  [⟨"BOOST_MOTORONFOR", "boost_motorOnFor", plain⟩,
   ⟨"BOOST_MOTORONFORROTATION", "boost_motorOnForRotation", plain⟩,
   ⟨"BOOST_MOTORON", "boost_motorOn", plain⟩,
   ⟨"BOOST_MOTOROFF", "boost_motorOff", plain⟩,
   ⟨"BOOST_SETMOTORPOWER", "boost_setMotorPower", plain⟩,
   ⟨"BOOST_SETMOTORDIRECTION", "boost_setMotorDirection", plain⟩,
   ⟨"BOOST_GETMOTORPOSITION", "boost_getMotorPosition", plain⟩,
   ⟨"BOOST_WHENCOLOR", "boost_whenColor", plain⟩,
   ⟨"BOOST_SEEINGCOLOR", "boost_seeingColor", plain⟩,
   ⟨"BOOST_WHENTILTED", "boost_whenTilted", plain⟩,
   ⟨"BOOST_GETTILTANGLE", "boost_getTiltAngle", plain⟩,
   ⟨"BOOST_SETLIGHTHUE", "boost_setLightHue", plain⟩,
   ⟨"BOOST_MENU_MOTOR_ID", "boost_menu_MOTOR_ID", plain⟩,
   ⟨"BOOST_MENU_MOTOR_DIRECTION", "boost_menu_MOTOR_DIRECTION", plain⟩,
   ⟨"BOOST_MENU_MOTOR_REPORTER_ID", "boost_menu_MOTOR_REPORTER_ID", plain⟩,
   ⟨"BOOST_MENU_COLOR", "boost_menu_COLOR", plain⟩,
   ⟨"BOOST_MENU_TILT_DIRECTION_ANY", "boost_menu_TILT_DIRECTION_ANY", plain⟩,
   ⟨"BOOST_MENU_TILT_DIRECTION", "boost_menu_TILT_DIRECTION", plain⟩]

def wedo2 : List Row :=
  [⟨"WEDO2_MOTORONFOR", "wedo2_motorOnFor", plain⟩,
   ⟨"WEDO2_MOTORON", "wedo2_motorOn", plain⟩,
   ⟨"WEDO2_MOTOROFF", "wedo2_motorOff", plain⟩,
   ⟨"WEDO2_STARTMOTORPOWER", "wedo2_startMotorPower", plain⟩,
   ⟨"WEDO2_SETMOTORDIRECTION", "wedo2_setMotorDirection", plain⟩,
   ⟨"WEDO2_SETLIGHTHUE", "wedo2_setLightHue", plain⟩,
   ⟨"WEDO2_WHENDISTANCE", "wedo2_whenDistance", plain⟩,
   ⟨"WEDO2_WHENTILTED", "wedo2_whenTilted", plain⟩,
   ⟨"WEDO2_GETDISTANCE", "wedo2_getDistance", plain⟩,
   ⟨"WEDO2_ISTILTED", "wedo2_isTilted", plain⟩,
   ⟨"WEDO2_GETTILTANGLE", "wedo2_getTiltAngle", plain⟩,
   ⟨"WEDO2_PLAYNOTEFOR", "wedo2_playNoteFor", plain⟩,
   ⟨"WEDO2_MENU_MOTOR_ID", "wedo2_menu_MOTOR_ID", plain⟩,
   ⟨"WEDO2_MENU_MOTOR_DIRECTION", "wedo2_menu_MOTOR_DIRECTION", plain⟩,
   ⟨"WEDO2_MENU_OP", "wedo2_menu_OP", plain⟩,
   ⟨"WEDO2_MENU_TILT_DIRECTION_ANY", "wedo2_menu_TILT_DIRECTION_ANY", plain⟩,
   ⟨"WEDO2_MENU_TILT_DIRECTION", "wedo2_menu_TILT_DIRECTION", plain⟩]

def gdxfor : List Row :=
  [⟨"GDXFOR_WHENGESTURE", "gdxfor_whenGesture", plain⟩,
   ⟨"GDXFOR_WHENFORCEPUSHEDORPULLED", "gdxfor_whenForcePushedOrPulled", plain⟩,
   ⟨"GDXFOR_GETFORCE", "gdxfor_getForce", plain⟩,
   ⟨"GDXFOR_WHENTILTED", "gdxfor_whenTilted", plain⟩,
   ⟨"GDXFOR_ISTILTED", "gdxfor_isTilted", plain⟩,
   ⟨"GDXFOR_GETTILT", "gdxfor_getTilt", plain⟩,
   ⟨"GDXFOR_ISFREEFALLING", "gdxfor_isFreeFalling", plain⟩,
   ⟨"GDXFOR_GETSPINSPEED", "gdxfor_getSpinSpeed", plain⟩,
   ⟨"GDXFOR_GETACCELERATION", "gdxfor_getAcceleration", plain⟩,
   ⟨"GDXFOR_MENU_GESTUREOPTIONS", "gdxfor_menu_gestureOptions", plain⟩,
   ⟨"GDXFOR_MENU_PUSHPULLOPTIONS", "gdxfor_menu_pushPullOptions", plain⟩,
   ⟨"GDXFOR_MENU_TILTANYOPTIONS", "gdxfor_menu_tiltAnyOptions", plain⟩,
   ⟨"GDXFOR_MENU_TILTOPTIONS", "gdxfor_menu_tiltOptions", plain⟩,
   ⟨"GDXFOR_MENU_AXISOPTIONS", "gdxfor_menu_axisOptions", plain⟩]

def coreExample : List Row :=
  [⟨"COREEXAMPLE_EXAMPLEOPCODE", "coreExample_exampleOpcode", reporter⟩,
   ⟨"COREEXAMPLE_EXAMPLEWITHINLINEIMAGE", "coreExample_exampleWithInlineImage", command⟩]

def extensions : List Row :=
  music ++ pen ++ videoSensing ++ textToSpeech ++ translate ++ makeyMakey ++
    microbit ++ ev3 ++ boost ++ wedo2 ++ gdxfor ++ coreExample

end OpcodeShapes.Catalogue
